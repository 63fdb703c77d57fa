import SelectionGen.Archive.Bytes
import SelectionGen.Number.FloatingPoint
import SelectionGen.Text.Split
import SelectionGen.Text.Utf8
import SelectionGen.Text.Whole

/-! Labels on a tape. A label is a block that describes the member behind it: its path, its size, who may do
what with it and its kind. Numbers are digits of base eight, or binary behind a byte that marks them. -/
namespace SelectionGen.Archive

def blockSize : Nat := 512

/-- How many bytes whole blocks take that hold so many. A label may tell a size below zero. -/
def inBlocks (size : Int) : Int := (size + (blockSize - 1)) / blockSize * blockSize

/-- Why a block is no label. -/
inductive LabelFault
  | nothing
  | short
  | zeros
  | invalid
  | wrongSum
deriving DecidableEq, Repr

def LabelFault.message : LabelFault → String
  | nothing => "empty header"
  | short => "truncated header"
  | zeros => "end of file header"
  | invalid => "invalid header"
  | wrongSum => "bad checksum"

/-- What a label describes. A stub has the numbers of no device. The last kinds tell something about the
member that follows, or about all that follow. -/
inductive MemberKind
  | file
  | sameFile
  | link
  | device
  | stub
  | directory
  | pipe
  | scattered
  | unknown
  | longPath
  | longTarget
  | notes
  | sharedNotes
deriving DecidableEq, Repr

namespace MemberKind

/-- The kind that a byte stands for. `isNumbered` tells whether there are numbers of a device. -/
def ofByte (isNumbered : Bool) (byte : UInt8) : MemberKind :=
  if byte = 0 then file
  else
    match Char.ofNat byte.toNat with
    | '0' => file
    | '1' => sameFile
    | '2' => link
    | '3' => if isNumbered then device else stub
    | '4' => device
    | '5' => directory
    | '6' => pipe
    | '7' => file
    | 'L' => longPath
    | 'K' => longTarget
    | 'S' => scattered
    | 'x' => notes
    | 'X' => notes
    | 'g' => sharedNotes
    | _ => unknown

/-- Behind the label of a file, and of what is taken for one, stands its content. -/
def hasContent : MemberKind → Bool
  | file => true
  | scattered => true
  | unknown => true
  | _ => false

end MemberKind

/-- A part of a scattered file: where it lies in the file, and its size. -/
abbrev Part := Int × Int

/-- Who a member belongs to: numbers, and names that count instead where they are known. -/
structure Owner where
  user : Int
  group : Int
  userName : String
  groupName : String
deriving DecidableEq, Repr

/-- When a member was changed, in seconds. -/
inductive Moment
  | whole (seconds : Int)
  | decimal (seconds : Number.Decimal)
deriving DecidableEq, Repr

/-- What a label says of a member. Numbers are as they are told, whether they can be meant or not. -/
structure Description where
  path : String
  mode : Int
  owner : Owner
  size : Int
  moment : Moment
  kind : MemberKind
  target : String
  device : Int × Int

/-- A label. For a scattered file `size` is what its parts take, and `wholeSize` what they are scattered
over. -/
structure Label extends Description where
  parts : List Part := []
  hasMoreParts : Bool := false
  wholeSize : Int := 0

/-- The bytes of a text that ends at a zero byte or with its field. -/
def textBytes (bytes : ByteArray) : ByteArray :=
  ⟨(bytes.toList.takeWhile fun byte => byte ≠ 0).toArray⟩

def fieldText (bytes : ByteArray) : String := Text.Utf8.lenient (textBytes bytes)

/-- A binary number, highest byte first. -/
def highFirst (bytes : List UInt8) : Nat := bytes.foldl (fun value byte => 256 * value + byte.toNat) 0

/-- The number in a field; nothing but blanks is zero. -/
def fieldNumber? (bytes : ByteArray) : Option Int :=
  match bytes.toList with
  | 0x80 :: rest => some (highFirst rest)
  | 0xFF :: rest => some ((highFirst rest : Int) - (Nat.pow 256 rest.length : Nat))
  | _ =>
    let kept := textBytes bytes
    if kept.toList.any fun byte => 0x80 ≤ byte then none
    else
      let text := Text.Utf8.lenient kept
      let digits := String.ofList (Text.strip text.toList)
      if digits.isEmpty then some 0 else Text.Whole.ofText? 8 digits

/-- The sum of the bytes of a label, where those of the sum itself count as blanks. -/
def labelSum (block : ByteArray) : Nat :=
  ((slice block 0 148).toList ++ (slice block 156 blockSize).toList).foldl
    (fun sum byte => sum + byte.toNat) (8 * 32)

/-- The sum in which bytes from 128 on are negative. Some programs wrote it. -/
def signedLabelSum (block : ByteArray) : Int :=
  ((slice block 0 148).toList ++ (slice block 156 blockSize).toList).foldl
    (fun sum byte => sum + byte.toInt8.toInt) (8 * 32)

/-- The text without slashes at its end. -/
def withoutSlashes (text : String) : String :=
  String.ofList (text.toList.reverse.dropWhile fun c => c == '/').reverse

/-- The parts that fields from a place on tell, up to the first that is no number. -/
def partsAt (block : ByteArray) (start : Nat) : Nat → List Part
  | 0 => []
  | count + 1 =>
    match fieldNumber? (slice block start (start + 12)),
        fieldNumber? (slice block (start + 12) (start + 24)) with
    | some place, some size => (place, size) :: partsAt block (start + 24) count
    | _, _ => []

/-- Where the fields of a label are that hold numbers, and where they end. -/
def numberFields : List (Nat × Nat) :=
  [(100, 108), (108, 116), (116, 124), (124, 136), (136, 148), (329, 337), (337, 345)]

/-- The label that a block is. -/
def Label.ofBlock (block : ByteArray) : Except LabelFault Label := do
  if block.isEmpty then throw .nothing
  if block.size < blockSize then throw .short
  if block.toList.all fun byte => byte == 0 then throw .zeros
  let some sum := fieldNumber? (slice block 148 156) | throw .invalid
  if sum ≠ labelSum block ∧ sum ≠ signedLabelSum block then throw .wrongSum
  let numbers := numberFields.map fun (start, stop) => fieldNumber? (slice block start stop)
  if numbers.any Option.isNone then throw .invalid
  let number (index : Nat) : Int := ((numbers[index]?).join).getD 0
  let name := fieldText (slice block 0 100)
  let byte := (block[156]?).getD 0
  let kind := if byte = 0 && Text.endsWith "/" name then .directory
    else MemberKind.ofByte (number 5 ≠ 0 || number 6 ≠ 0) byte
  let name := if kind = .directory then withoutSlashes name else name
  let start := fieldText (slice block 345 500)
  let isWhole := start = "" ∨ [MemberKind.longPath, .longTarget, .scattered].contains kind
  let label : Label := {
    path := if isWhole then name else start ++ "/" ++ name
    mode := number 0
    owner := ⟨number 1, number 2, fieldText (slice block 265 297), fieldText (slice block 297 329)⟩
    size := number 3
    moment := .whole (number 4)
    kind
    target := fieldText (slice block 157 257)
    device := (number 5, number 6) }
  if kind ≠ .scattered then return label
  let some wholeSize := fieldNumber? (slice block 483 495) | throw .invalid
  return { label with
    parts := partsAt block 386 4
    hasMoreParts := (block[482]?).getD 0 ≠ 0
    wholeSize }

/-! Notes on a tape: named values that say more about members than a label can. A note tells its own length,
so that its value may hold anything. -/

/-- Named values. Each name has one value and keeps the place where it was first. -/
abbrev Notes := List (String × String)

namespace Notes

def put (notes : Notes) (name value : String) : Notes :=
  if (notes.lookup name).isSome then
    notes.map fun (other, old) => if other = name then (other, value) else (other, old)
  else notes ++ [(name, value)]

/-- The note at the front of some bytes, and how many bytes it takes. -/
def front? (bytes : List UInt8) : Option ((List UInt8 × List UInt8) × Nat) :=
  let digits := (bytes.takeWhile fun byte => '0'.toNat ≤ byte.toNat && byte.toNat ≤ '9'.toNat)
  let length := digits.foldl (fun value byte => 10 * value + (byte.toNat - '0'.toNat)) 0
  let isNumbered := digits.length ≠ 0 ∧ digits.length ≤ 20
  if !isNumbered || bytes[digits.length]? != some 0x20 || length < 5 || bytes.length < length
      || bytes[length - 1]? != some 0x0A then none
  else
    let entry := (bytes.take (length - 1)).drop (digits.length + 1)
    let name := entry.takeWhile fun byte => byte ≠ 0x3D
    if name.isEmpty || entry[name.length]? != some 0x3D then none
    else some ((name, entry.drop (name.length + 1)), length)

/-- Notes one behind the other, up to a zero byte or the end. -/
def pairsFrom (bytes : List UInt8) : Nat → Except LabelFault (List (List UInt8 × List UInt8))
  | 0 => .ok []
  | bound + 1 =>
    match bytes with
    | [] => .ok []
    | 0 :: _ => .ok []
    | bytes =>
      match front? bytes with
      | none => .error .invalid
      | some (pair, length) => do return pair :: (← pairsFrom (bytes.drop length) bound)

def textOf (bytes : List UInt8) : String := Text.Utf8.lenient ⟨bytes.toArray⟩

/-- The pairs of names and values in the content of a note. -/
def read (bytes : ByteArray) : Except LabelFault (List (String × String)) := do
  return (← pairsFrom bytes.toList bytes.size).map fun (name, value) => (textOf name, textOf value)

end Notes

end SelectionGen.Archive
