import SelectionGen.Archive.Bytes
import SelectionGen.Files.Fault
import SelectionGen.Text.Split
import SelectionGen.Text.Utf8

/-! The directory at the end of a zip file. It lists each member with the place of its content; a record
that closes the file tells where the directory is, and for large files a second one tells it again with
wider numbers. Bytes in front of the archive shift all places alike. -/
namespace SelectionGen.Archive

/-- The numbers of a listed member that are told apart if they are too large for their field. -/
inductive WideNumber
  | size
  | packedSize
  | place
deriving DecidableEq, Repr

def WideNumber.words : WideNumber → String
  | size => "File size"
  | packedSize => "Compress size"
  | place => "Header offset"

/-- How a directory can be at fault. -/
inductive DirectoryFault
  | missing
  | severalDisks
  | wrongPlace
  | ends
  | wrongMark
  | name (error : Text.Utf8.DecodeError)
  | version (tenths : Nat)
  | extraField (id size : Nat)
  | wideNumber (number : WideNumber)
deriving DecidableEq, Repr

def DirectoryFault.message : DirectoryFault → String
  | missing => "File is not a zip file"
  | severalDisks => "zipfiles that span multiple disks are not supported"
  | wrongPlace => "Bad offset for central directory"
  | ends => "Truncated central directory"
  | wrongMark => "Bad magic number for central directory"
  | name error => error.message
  | version tenths => "zip file version " ++ toString (tenths / 10) ++ "." ++ toString (tenths % 10)
  | extraField id size =>
    "Corrupt extra field " ++ String.ofList (Text.Quoted.hexDigits 4 id) ++ " (size=" ++ toString size
      ++ ")"
  | wideNumber number => "Corrupt zip64 extra field. " ++ number.words ++ " not found."

def closingMark : List UInt8 := [0x50, 0x4B, 5, 6]
def wideClosingMark : List UInt8 := [0x50, 0x4B, 6, 6]
def locatorMark : List UInt8 := [0x50, 0x4B, 6, 7]
def entryMark : List UInt8 := [0x50, 0x4B, 1, 2]

/-! The sizes of the records without what varies in them. -/

def closingSize : Nat := 22
def wideClosingSize : Nat := 56
def locatorSize : Nat := 20
def entrySize : Nat := 46

/-- How far in front of the last possible place the closing record is looked for. -/
def commentLimit : Nat := 65536

/-- The newest version of the format that is understood, in tenths. -/
def versionLimit : Nat := 63

/-- Where the last closing record is. One without a comment at the very end comes before all others. -/
def closingPlace? (bytes : ByteArray) : Option Nat :=
  if bytes.size < closingSize then none
  else
    let last := bytes.size - closingSize
    if hasBytesAt bytes last closingMark && numberAt bytes (last + 20) 2 == 0 then some last
    else
      let found := ((List.range (min bytes.size (commentLimit + closingSize))).map
        fun back => bytes.size - 1 - back).find? fun place => hasBytesAt bytes place closingMark
      found.filter fun place => place ≤ last

/-- What the closing records tell: the place of the directory as it is claimed, its size, and where the
first of the records is. -/
structure Closing where
  place : Nat
  claimed : Nat
  size : Nat

/-- The closing records that begin or end with the one at a place. -/
def closingAt (bytes : ByteArray) (place : Nat) : Except DirectoryFault Closing :=
  let plain := ⟨place, numberAt bytes (place + 16) 4, numberAt bytes (place + 12) 4⟩
  let locator := place - locatorSize
  if place < locatorSize || !hasBytesAt bytes locator locatorMark then .ok plain
  else if numberAt bytes (locator + 4) 4 ≠ 0 ∨ 1 < numberAt bytes (locator + 16) 4 then
    .error .severalDisks
  else if locator < wideClosingSize then .error .missing
  else
    let wide := locator - wideClosingSize
    if hasBytesAt bytes wide wideClosingMark then
      .ok ⟨wide, numberAt bytes (wide + 48) 8, numberAt bytes (wide + 40) 8⟩
    else .ok plain

/-- The characters of the bytes from 128 on in names that are not marked as UTF-8. -/
def upperCharacters : String :=
  "ÇüéâäàåçêëèïîìÄÅÉæÆôöòûùÿÖÜ¢£¥₧ƒ"
    ++ "áíóúñÑªº¿⌐¬½¼¡«»░▒▓│┤╡╢╖╕╣║╗╝╜╛┐"
    ++ "└┴┬├─┼╞╟╚╔╩╦╠═╬╧╨╤╥╙╘╒╓╫╪┘┌█▄▌▐▀"
    ++ "αßΓπΣσµτΦΘΩδ∞φε∩≡±≥≤⌠⌡÷≈°∙·√ⁿ²■\u00A0"

/-- A name as a text. -/
def nameText (isUtf8 : Bool) (bytes : ByteArray) : Except Text.Utf8.DecodeError String :=
  if isUtf8 then Text.Utf8.decode bytes
  else
    let upper := upperCharacters.toList
    .ok (String.ofList (bytes.toList.map fun byte =>
      if byte < 128 then Char.ofNat byte.toNat else (upper[byte.toNat - 128]?).getD ' '))

/-- What the directory says about a member. The place of its content is counted from the start of the
file; it can lie in front of it. Where the content has to end follows from all entries. -/
structure Entry where
  listedName : String
  flags : Nat
  method : Nat
  sum : Nat
  packedSize : Nat
  size : Nat
  attributeBits : Nat
  place : Int
  stop : Int := 0

namespace Entry

/-- The name up to the first zero byte in it. -/
def path (entry : Entry) : String :=
  String.ofList (entry.listedName.toList.takeWhile fun c => c ≠ '\x00')

def isDirectory (entry : Entry) : Bool := Text.endsWith "/" entry.path

def isEncrypted (entry : Entry) : Bool := entry.flags.testBit 0

end Entry

/-- Field values of four and eight bytes that stand for a number told apart. -/
def wideMarks : List Nat := [0xFFFFFFFF, 0xFFFFFFFFFFFFFFFF]

/-- The next of the numbers told apart, and those behind it. -/
def takeWide (number : WideNumber) (bytes : ByteArray) : Except DirectoryFault (Nat × ByteArray) :=
  if bytes.size < 8 then .error (.wideNumber number)
  else .ok (numberAt bytes 0 8, bytes.extract 8 bytes.size)

/-- An entry with the numbers that the field for large files tells. -/
def Entry.widen (entry : Entry) (field : ByteArray) : Except DirectoryFault Entry := do
  let mut (entry, field) := (entry, field)
  if wideMarks.contains entry.size then
    let (size, rest) ← takeWide .size field
    (entry, field) := ({ entry with size }, rest)
  if entry.packedSize = 0xFFFFFFFF then
    let (packedSize, rest) ← takeWide .packedSize field
    (entry, field) := ({ entry with packedSize }, rest)
  if entry.place = 0xFFFFFFFF then
    let (place, _) ← takeWide .place field
    entry := { entry with place }
  return entry

/-- The number of the extra field for large files. -/
def wideField : Nat := 1

/-- An entry with what its extra fields tell. Less than a field's head is passed over. -/
def Entry.withExtra (entry : Entry) (extra : ByteArray) : Nat → Except DirectoryFault Entry
  | 0 => .ok entry
  | bound + 1 => do
    if extra.size < 4 then return entry
    else
      let id := numberAt extra 0 2
      let size := numberAt extra 2 2
      if extra.size < size + 4 then throw (.extraField id size)
      else
        let entry ← if id = wideField then entry.widen (extra.extract 4 (size + 4)) else pure entry
        entry.withExtra (extra.extract (size + 4) extra.size) bound

/-- The entry at a place of a directory, and how many bytes it claims to take. -/
def entryAt (directory : ByteArray) (start : Nat) : Except DirectoryFault (Entry × Nat) := do
  if directory.size < start + entrySize then throw .ends
  if !hasBytesAt directory start entryMark then throw .wrongMark
  let flags := numberAt directory (start + 8) 2
  let nameStart := start + entrySize
  let extraStart := nameStart + numberAt directory (start + 28) 2
  let commentStart := extraStart + numberAt directory (start + 30) 2
  let listedName ← (nameText (flags.testBit 11) (slice directory nameStart extraStart)).mapError .name
  let version := numberAt directory (start + 6) 1
  if versionLimit < version then throw (.version version)
  let extra := slice directory extraStart commentStart
  let entry : Entry := {
    listedName, flags
    method := numberAt directory (start + 10) 2
    sum := numberAt directory (start + 16) 4
    packedSize := numberAt directory (start + 20) 4
    size := numberAt directory (start + 24) 4
    attributeBits := numberAt directory (start + 38) 4
    place := numberAt directory (start + 42) 4 }
  return (← entry.withExtra extra extra.size,
    commentStart + numberAt directory (start + 32) 2 - start)

/-- The entries from a place of a directory on, up to its claimed size. Each takes more than one byte,
which bounds their number. -/
def entriesFrom (directory : ByteArray) (size : Nat) : Nat → Nat → Except DirectoryFault (List Entry)
  | 0, _ => .ok []
  | bound + 1, start =>
    if size ≤ start then .ok []
    else do
      let (entry, width) ← entryAt directory start
      return entry :: (← entriesFrom directory size bound (start + width))

/-- Entries with their ends, if the directory begins at `start`: a content ends where the next one begins.
Of contents that begin at one place only the one listed first has room. -/
def withStops (start : Nat) (entries : List Entry) : List Entry :=
  entries.zipIdx.map fun (entry, index) =>
    let places := (entries.map Entry.place).filter fun place => decide (entry.place < place)
    let taken := (entries.take index).any fun other => other.place == entry.place
    { entry with stop := if taken then entry.place else places.min?.getD start }

/-- The entries of a zip file. -/
def zipEntries (bytes : ByteArray) : Except DirectoryFault (List Entry) := do
  let some place := closingPlace? bytes | throw .missing
  let closing ← closingAt bytes place
  if closing.place < closing.size then throw .wrongPlace
  let start := closing.place - closing.size
  let entries ← entriesFrom (slice bytes start closing.place) closing.size (closing.size + 1) 0
  let shift : Int := start - closing.claimed
  return withStops start (entries.map fun entry => { entry with place := entry.place + shift })

end SelectionGen.Archive
