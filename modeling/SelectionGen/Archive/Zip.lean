import SelectionGen.Archive.BlockSort
import SelectionGen.Archive.Inflate
import SelectionGen.Archive.RangeCode
import SelectionGen.Archive.ZipDirectory
import SelectionGen.Files.Write

/-! Unpacking zip files. Before the content of a member stands a head that has to agree with the directory,
and contents may not reach into one another. A content is cut to the size that the directory tells. -/
namespace SelectionGen.Archive

open Files

/-- How unpacking a zip file can fail. -/
inductive ZipError
  | directory (fault : DirectoryFault)
  | nameMissing
  | noPlace
  | headEnds
  | headMark
  | patched
  | stronglyEncrypted
  | headName (error : Text.Utf8.DecodeError)
  | namesDiffer (listed : String) (found : List UInt8)
  | overlap (name : String)
  | encrypted (summary : String)
  | unknownMethod
  | contentEnds
  | deflated (damage : DeflateDamage)
  | sorted (damage : SortDamage)
  | ranged (damage : RangeDamage)
  | wrongSum (path : String)
  | files (error : FileError)
deriving DecidableEq

def ZipError.message : ZipError → String
  | directory fault => fault.message
  | nameMissing => "string index out of range"
  | noPlace => "[Errno 22] Invalid argument"
  | headEnds => "Truncated file header"
  | headMark => "Bad magic number for file header"
  | patched => "compressed patched data (flag bit 5)"
  | stronglyEncrypted => "strong encryption (flag bit 6)"
  | headName error => error.message
  | namesDiffer listed found =>
    "File name in directory " ++ Text.quoted listed ++ " and header " ++ quotedBytes found ++ " differ."
  | overlap name => "Overlapped entries: " ++ Text.quoted name ++ " (possible zip bomb)"
  | encrypted summary => "File " ++ summary ++ " is encrypted, password required for extraction"
  | unknownMethod => "That compression method is not supported"
  | contentEnds => ""
  | deflated damage => damage.message
  | sorted damage => damage.message
  | ranged damage => damage.message
  | wrongSum path => "Bad CRC-32 for file " ++ Text.quoted path
  | files error => error.message

/-- The letter of a kind of file, told by the bits above those for permissions. -/
def kindLetter (kind : Nat) : Char :=
  (([(12, 's'), (10, 'l'), (8, '-'), (6, 'b'), (4, 'd'), (2, 'c'), (1, 'p')] : List (Nat × Char)).lookup
    kind).getD '?'

/-- Three letters for what somebody may do with a file. The bit `special` shows in the last of them. -/
def permissionLetters (bits : Nat) (special : Bool) (letter : Char) : List Char :=
  let last := if special then (if bits.testBit 0 then letter else letter.toUpper)
    else if bits.testBit 0 then 'x' else '-'
  [if bits.testBit 2 then 'r' else '-', if bits.testBit 1 then 'w' else '-', last]

/-- The kind of a file and who may do what with it, in ten letters. -/
def modeLetters (mode : Nat) : String :=
  String.ofList (kindLetter (mode / 0x1000) :: permissionLetters (mode / 64 % 8) (mode.testBit 11) 's'
    ++ permissionLetters (mode / 8 % 8) (mode.testBit 10) 's'
    ++ permissionLetters (mode % 8) (mode.testBit 9) 't')

/-- The names of methods of compression, whether they can be undone here or not. -/
def methodNames : List (Nat × String) :=
  [(0, "store"), (1, "shrink"), (2, "reduce"), (3, "reduce"), (4, "reduce"), (5, "reduce"), (6, "implode"),
    (7, "tokenize"), (8, "deflate"), (9, "deflate64"), (10, "implode"), (12, "bzip2"), (14, "lzma"),
    (18, "terse"), (19, "lz77"), (97, "wavpack"), (98, "ppmd")]

namespace Entry

/-- A listed member in one line. What is as usual is left out. -/
def summary (entry : Entry) : String :=
  let shown (name : String) (value : Nat) := " " ++ name ++ "=" ++ toString value
  let isStored := entry.method = 0
  let mode := entry.attributeBits / 0x10000
  let low := entry.attributeBits % 0x10000
  "<ZipInfo filename=" ++ Text.quoted entry.path
    ++ (if isStored then ""
      else " compress_type=" ++ (methodNames.lookup entry.method).getD (toString entry.method))
    ++ (if mode = 0 then "" else " filemode=" ++ Text.quoted (modeLetters mode))
    ++ (if low = 0 then "" else " external_attr=0x" ++ String.ofList (Nat.toDigits 16 low))
    ++ (if entry.isDirectory && entry.size = 0 then "" else shown "file_size" entry.size)
    ++ (if (entry.isDirectory && entry.packedSize = 0) || (isStored && entry.size = entry.packedSize) then ""
      else shown "compress_size" entry.packedSize)
    ++ ">"

end Entry

def headMark : List UInt8 := [0x50, 0x4B, 3, 4]

/-- The size of a head without what varies in it. -/
def headSize : Nat := 30

/-- The methods of compression that can be undone. -/
def knownMethods : List Nat := [0, 8, 12, 14]

/-- Where the content of a member begins, if it can be read. -/
def Entry.contentPlace (entry : Entry) (bytes : ByteArray) : Except ZipError Nat := do
  if entry.place < 0 then throw .noPlace
  let start := entry.place.toNat
  if bytes.size < start + headSize then throw .headEnds
  if !hasBytesAt bytes start headMark then throw .headMark
  let nameStart := start + headSize
  let extraStart := nameStart + numberAt bytes (start + 26) 2
  let place := min bytes.size (extraStart + numberAt bytes (start + 28) 2)
  if entry.flags.testBit 5 then throw .patched
  if entry.flags.testBit 6 then throw .stronglyEncrypted
  let found := slice bytes nameStart extraStart
  let name ← (nameText ((numberAt bytes (start + 6) 2).testBit 11) found).mapError .headName
  if name ≠ entry.listedName then throw (.namesDiffer entry.listedName found.toList)
  if entry.stop < place + entry.packedSize then throw (.overlap entry.listedName)
  if entry.isEncrypted then throw (.encrypted entry.summary)
  if !(knownMethods.contains entry.method) then throw .unknownMethod
  return place

/-- Contents are read and undone in parts of this many bytes, and no part behind the last byte needed. -/
def partSize : Nat := 65536

/-- What a stream gives to a reader of so many bytes, who meets damage only in the parts that are read. -/
def Decoded.needed (decoded : Decoded δ) (size : Nat) (damaged : δ → ε) (isWhole : Bool) (ends : ε) :
    Except ε ByteArray :=
  let content := decoded.output.extract 0 size
  match decoded.fault? with
  | none => .ok content
  | some (.damaged damage) =>
    if decoded.output.size < (max size 1 + partSize - 1) / partSize * partSize then .error (damaged damage)
    else .ok content
  | some .ends => if isWhole || size ≤ decoded.output.size then .ok content else .error ends

/-- What bytes in a range code stand for. In front of it stand the version of the program that made it, the
size of the options and the options. -/
def rangedContent (packed : ByteArray) (size : Nat) (isWhole : Bool) : Except ZipError ByteArray :=
  let width := numberAt packed 2 2
  if packed.size ≤ 4 + width then
    if isWhole || size = 0 then .ok .empty else .error .contentEnds
  else
    match RangeOptions.ofBytes? (packed.extract 4 (4 + width)) with
    | none => .error (.ranged .options)
    | some options => (unrange options packed (4 + width)).needed size .ranged isWhole .contentEnds

/-- The content of a member from its place on. -/
def Entry.content (entry : Entry) (bytes : ByteArray) (place : Nat) : Except ZipError ByteArray := do
  let packed := slice bytes place (place + entry.packedSize)
  let isWhole := packed.size = entry.packedSize
  if packed.isEmpty && !isWhole then throw .contentEnds
  let content ← match entry.method with
    | 8 => (inflate packed 0).needed entry.size .deflated isWhole .contentEnds
    | 12 => (unsort packed).needed entry.size .sorted isWhole .contentEnds
    | 14 => rangedContent packed entry.size isWhole
    | _ =>
      if isWhole || entry.size ≤ packed.size then pure (packed.extract 0 entry.size)
      else throw .contentEnds
  if (checksum content).toNat ≠ entry.sum then throw (.wrongSum entry.path)
  return content

/-- Where a member goes below a directory. It cannot lead out of it. -/
def Entry.target (entry : Entry) (directory : String) : String :=
  "/".intercalate (directory ::
    (splitSlashes entry.path).filter fun part => !(["", ".", ".."].contains part))

/-- A tree with one member unpacked into a directory. Every member needs a name. -/
def Entry.unpack (entry : Entry) (bytes : ByteArray) (directory : String) (tree : Tree) :
    Except ZipError Tree := do
  let path := entry.target directory
  let tree ← (tree.ensureParent path).mapError .files
  if entry.path = "" then throw .nameMissing
  if entry.isDirectory then
    if tree.hasDirectory path then return tree
    else (tree.makeDirectory path).mapError .files
  else
    let place ← entry.contentPlace bytes
    let tree ← (tree.writeFile path .empty).mapError .files
    (tree.writeFile path (← entry.content bytes place)).mapError .files

/-- A tree with all members of a zip file unpacked into a directory. Of the entries with the same name it
is always the last that is unpacked. -/
def unpackZip (bytes : ByteArray) (directory : String) (tree : Tree) : Except ZipError Tree := do
  let entries ← (zipEntries bytes).mapError .directory
  entries.foldlM (fun tree listed =>
    let same := entries.filter fun entry => entry.path == listed.path
    (same.getLastD listed).unpack bytes directory tree) tree

end SelectionGen.Archive
