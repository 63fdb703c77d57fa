import SelectionGen.Archive.Stream
import SelectionGen.Archive.TapeLabel
import SelectionGen.Text.Printable

/-! Reading a packed tape. A tape is a sequence of labels, each with its content behind it in whole blocks.
What is no label ends the tape, and is a fault only at its start or where a label is announced. -/
namespace SelectionGen.Archive

/-- How reading a tape can fail. A wrong number is kept as messages show it. -/
inductive TapeFault
  | packing (fault : PackingFault)
  | notPacked
  | damagedLabel (damage : DeflateDamage)
  | label (fault : LabelFault)
  | nothingThere
  | contentEnds
  | number (shown : String)
  | longNumber (digits : Nat)
  | lineMissing
  | blockEnds
  | sizeBelowZero
  | sizeTooLarge
  | noRoom
  | noPlace
  | placeTooFar
deriving DecidableEq

def TapeFault.message : TapeFault → String
  | packing fault => fault.message
  | notPacked => "not a gzip file"
  | damagedLabel damage => "zlib error: " ++ damage.message
  | label fault => fault.message
  | nothingThere => "empty file"
  | contentEnds => "unexpected end of data"
  | number shown =>
    "invalid literal for int() with base 10: " ++ String.ofList (shown.toList.take 200)
  | longNumber digits =>
    "Exceeds the limit (" ++ toString Text.Whole.digitLimit
      ++ " digits) for integer string conversion: value has " ++ toString digits
      ++ " digits; use sys.set_int_max_str_digits() to increase the limit"
  | lineMissing => "not enough values to unpack (expected 2, got 1)"
  | blockEnds => "index out of range"
  | sizeBelowZero => "read length must be non-negative or -1"
  | sizeTooLarge => "cannot fit 'int' into an index-sized integer"
  | noRoom => ""
  | noPlace => "[Errno 22] Invalid argument"
  | placeTooFar => "cannot fit 'int' into an offset-sized integer"

/-- A member: what its label says with what notes changed, and where its content begins. Parts are given if
it is scattered. -/
structure TapeMember extends Description where
  contentPlace : Nat
  parts? : Option (List Part) := none

/-- Places and sizes from here on are not reached by any count. -/
def countLimit : Int := 0x8000000000000000

/-- Sizes from here on find no room. -/
def roomLimit : Int := 0x10000000000

/-- Why there is no member at a place: no label, none where one was announced, or a fault of the tape. -/
inductive NoMember
  | label (fault : LabelFault)
  | announced (fault : LabelFault)
  | tape (fault : TapeFault)

/-- The bytes at a place of a stream: fewer at its end, but none where it breaks off by a fault. -/
def Stream.read (stream : Stream) (place size : Nat) : Except PackingFault ByteArray :=
  match stream.fault? with
  | some fault => if stream.content.size < place + size then .error fault
      else .ok (slice stream.content place (place + size))
  | none => .ok (slice stream.content place (place + size))

/-- Reads where labels are expected. Damage met there is reported as that of a tape. -/
def Stream.readLabel (stream : Stream) (place size : Nat) : Except NoMember ByteArray :=
  (stream.read place size).mapError fun
    | .damaged damage => .tape (.damagedLabel damage)
    | fault => .tape (.packing fault)

/-- Reads the whole blocks that a content of the given size takes. -/
def Stream.readBlocks (stream : Stream) (place : Nat) (size : Int) : Except NoMember ByteArray :=
  let wanted := inBlocks size
  if wanted < 0 then .error (.tape .sizeBelowZero)
  else if countLimit ≤ wanted then .error (.tape .sizeTooLarge)
  else if roomLimit ≤ wanted then .error (.tape .noRoom)
  else stream.readLabel place wanted.toNat

namespace TapeMember

/-- The number that a text spells, which a message would show as given. -/
def wholeNumber (text shown : String) : Except TapeFault Int :=
  match Text.Whole.tooManyDigits? 10 text.toList, Text.Whole.ofText? 10 text with
  | some digits, _ => .error (.longNumber digits)
  | none, some value => .ok value
  | none, none => .error (.number shown)

/-- A size in a note has to be a number if it is that of a scattered file. -/
def noteNumber (text : String) : Except TapeFault Int := wholeNumber text (Text.quoted text)

/-- Another number in a note counts as zero if it is none. -/
def lenientNumber (text : String) : Int := (Text.Whole.ofText? 10 text).getD 0

/-- A member with what a note says of its owner. -/
def withOwnerNote (member : TapeMember) (name value : String) : TapeMember :=
  let owner := member.owner
  match name with
  | "uid" => { member with owner := { owner with user := lenientNumber value } }
  | "gid" => { member with owner := { owner with group := lenientNumber value } }
  | "uname" => { member with owner := { owner with userName := value } }
  | "gname" => { member with owner := { owner with groupName := value } }
  | _ => member

/-- A member with what one note says. -/
def withNote (member : TapeMember) : String × String → Except TapeFault TapeMember
  | ("path", value) => .ok { member with path := withoutSlashes value }
  | ("GNU.sparse.name", value) => .ok { member with path := value }
  | ("linkpath", value) => .ok { member with target := value }
  | ("size", value) => .ok { member with size := lenientNumber value }
  | ("mtime", value) =>
    .ok { member with moment := ((Number.Decimal.ofText? value).map Moment.decimal).getD (.whole 0) }
  | ("GNU.sparse.size", value) => do return { member with size := ← noteNumber value }
  | ("GNU.sparse.realsize", value) => do return { member with size := ← noteNumber value }
  | (name, value) => .ok (member.withOwnerNote name value)

def withNotes (member : TapeMember) (notes : Notes) : Except TapeFault TapeMember :=
  notes.foldlM withNote member

/-- The path of a directory has no slash at its end. -/
def withDirectoryPath (member : TapeMember) : TapeMember :=
  if member.kind = .directory then { member with path := withoutSlashes member.path } else member

/-- How many bytes are passed over behind a label. -/
def span (member : TapeMember) : Int := if member.kind.hasContent then inBlocks member.size else 0

end TapeMember

/-- Numbers one per line, behind the bytes that were read already, up to so many. A line reaches at most
into the block behind those bytes. Comes with the place of the first block that was not read. -/
def lineNumbers (stream : Stream) (place : Nat) (read : List UInt8) :
    Nat → Except NoMember (List Int × Nat)
  | 0 => .ok ([], place)
  | count + 1 => do
    let (read, place) ← if read.contains 0x0A then pure (read, place)
      else do
        let block ← stream.readLabel place blockSize
        pure (read ++ block.toList, place + block.size)
    let line := read.takeWhile fun byte => byte ≠ 0x0A
    if line.length = read.length then throw (.tape .lineMissing)
    let number ← (TapeMember.wholeNumber (Notes.textOf line) (quotedBytes line)).mapError NoMember.tape
    let (rest, behind) ← lineNumbers stream place (read.drop (line.length + 1)) count
    return (number :: rest, behind)

/-- The numbers in the lines from a place on, two by two, as many pairs as the first line tells, and the
place of the first block behind them. -/
def listedNumbers (stream : Stream) (place : Nat) : Except NoMember (List Int × Nat) := do
  let block ← stream.readLabel place blockSize
  let line := block.toList.takeWhile fun byte => byte ≠ 0x0A
  if line.length = block.size then throw (.tape .lineMissing)
  let count ← (TapeMember.wholeNumber (Notes.textOf line) (quotedBytes line)).mapError NoMember.tape
  let bound := min (2 * count.toNat) (stream.content.size + 1)
  lineNumbers stream (place + block.size) (block.toList.drop (line.length + 1)) bound

/-- Numbers two by two. -/
def paired : List Int → List Part
  | place :: size :: rest => (place, size) :: paired rest
  | _ => []

/-- The parts that notes tell of a scattered file, where its content begins, if they tell that it is one. -/
def scatteredBy (stream : Stream) (notes : Notes) (pairs : List (String × String)) (member : TapeMember) :
    Except NoMember TapeMember := do
  let values (name : String) : Except NoMember (List Int) :=
    ((pairs.filter fun pair => pair.1 == name).mapM fun pair =>
      (TapeMember.noteNumber pair.2).mapError fun _ => NoMember.label .invalid)
  match notes.lookup "GNU.sparse.map", notes.lookup "GNU.sparse.size" with
  | some map, _ =>
    let numbers ← (Text.pieces ',' map).mapM fun text =>
      (TapeMember.noteNumber text).mapError NoMember.tape
    return { member with parts? := some (paired numbers) }
  | none, some _ =>
    let places ← values "GNU.sparse.offset"
    return { member with parts? := some (places.zip (← values "GNU.sparse.numbytes")) }
  | none, none =>
    if notes.lookup "GNU.sparse.major" = some "1" ∧ notes.lookup "GNU.sparse.minor" = some "0" then
      let (numbers, contentPlace) ← listedNumbers stream member.contentPlace
      return { member with parts? := some (paired numbers), contentPlace }
    else return member

/-- The parts in the blocks behind the label of a scattered file, and the place behind those blocks. The last
byte that is looked at tells whether there is another such block. -/
def furtherParts (stream : Stream) : Nat → Nat → Except NoMember (List Part × Nat)
  | 0, place => .ok ([], place)
  | bound + 1, place => do
    let block ← stream.readLabel place blockSize
    let parts := (partsAt block 0 21).filter fun part => part.1 ≠ 0 && part.2 ≠ 0
    if block.size ≤ 504 then throw (.tape .blockEnds)
    if (block[504]?).getD 0 = 0 then return (parts, place + blockSize)
    else
      let (rest, behind) ← furtherParts stream bound (place + blockSize)
      return (parts ++ rest, behind)

/-- A member, where the next one is described, and the notes that hold for all that follow. -/
structure Found where
  member : TapeMember
  next : Int
  shared : Notes

/-- A label that has to be there because one before it announced it. -/
def announced (result : Except NoMember Found) : Except NoMember Found :=
  result.mapError fun
    | .label fault => .announced fault
    | other => other

/-- The member that is described from a place on. -/
def memberAt (stream : Stream) (shared : Notes) : Nat → Nat → Except NoMember Found
  | 0, _ => .error (.label .nothing)
  | bound + 1, place => do
    let block ← stream.readLabel place blockSize
    let label ← (Label.ofBlock block).mapError .label
    let behind := place + blockSize
    let member : TapeMember := { label.toDescription with contentPlace := behind }
    let next := min stream.content.size (behind + (inBlocks label.size).toNat)
    match label.kind with
    | .longPath => do
      let text := fieldText (← stream.readBlocks behind label.size)
      let found ← announced (memberAt stream shared bound next)
      let path := if found.member.kind = .directory && Text.endsWith "/" text then
          String.ofList text.toList.dropLast
        else text
      return { found with member := { found.member with path } }
    | .longTarget => do
      let target := fieldText (← stream.readBlocks behind label.size)
      let found ← announced (memberAt stream shared bound next)
      return { found with member := { found.member with target } }
    | .sharedNotes => do
      let pairs ← (Notes.read (← stream.readBlocks behind label.size)).mapError .label
      let notes := pairs.foldl (fun notes (name, value) => notes.put name value) shared
      let found ← announced (memberAt stream notes bound next)
      return { found with member := ← scatteredBy stream notes pairs found.member }
    | .notes => do
      let pairs ← (Notes.read (← stream.readBlocks behind label.size)).mapError .label
      let notes := pairs.foldl (fun notes (name, value) => notes.put name value) shared
      let found ← announced (memberAt stream shared bound next)
      let member ← scatteredBy stream notes pairs found.member
      let member ← (member.withNotes notes).mapError .tape
      return { found with
        member
        next := if (notes.lookup "size").isSome then member.contentPlace + member.span else found.next }
    | .scattered => do
      let (parts, contentPlace) ←
        if label.hasMoreParts then furtherParts stream bound behind else pure ([], behind)
      return ⟨{ member with
          size := label.wholeSize, contentPlace, parts? := some (label.parts ++ parts) },
        contentPlace + inBlocks label.size, shared⟩
    | _ => do
      let changed ← (member.withNotes shared).mapError .tape
      return ⟨changed.withDirectoryPath, behind + member.span, shared⟩

/-- The members of a tape in order, and the fault that ends it, if it is one. -/
structure Tape where
  members : List TapeMember
  fault? : Option TapeFault

/-- Why a tape ends at a place where there is no member, if that is a fault. -/
def NoMember.fault? (isStart : Bool) : NoMember → Option TapeFault
  | .tape (.packing fault) =>
    match isStart, fault with
    | true, .ends => some (.packing .ends)
    | true, _ => some .notPacked
    | false, _ => some (.packing fault)
  | .tape fault => some fault
  | .announced fault => some (.label fault)
  | .label .zeros => none
  | .label .nothing => if isStart then some .nothingThere else none
  | .label fault => if isStart then some (.label fault) else none

/-- The members from a place on. The byte in front of that place has to be there. A tape does not go on in
front of its start. -/
def membersFrom (stream : Stream) (shared : Notes) : Nat → Int → Tape
  | 0, _ => ⟨[], none⟩
  | bound + 1, place =>
    match memberAt stream shared (bound + 1) place.toNat with
    | .error reason => ⟨[], reason.fault? (place == 0)⟩
    | .ok found =>
      let rest : Tape :=
        if found.next ≤ 0 then ⟨[], none⟩
        else if countLimit < found.next then ⟨[], some .placeTooFar⟩
        else if stream.content.size < found.next then
          ⟨[], some (match stream.fault? with
            | some fault => .packing fault
            | none => .contentEnds)⟩
        else membersFrom stream found.shared bound found.next
      { rest with members := found.member :: rest.members }

/-- The tape that a stream holds. -/
def Tape.ofStream (stream : Stream) : Tape :=
  membersFrom stream [] (stream.content.size / blockSize + 1) 0

/-- The bytes that are copied at a time. Of a size below zero only what it leaves in whole portions counts. -/
def copyPortion : Int := 16384

/-- The bytes of a content from its place on. -/
def Stream.content? (stream : Stream) (place : Nat) (size : Int) : Except TapeFault ByteArray := do
  let wanted := (if size < 0 then size % copyPortion else size).toNat
  if wanted = 0 then return .empty
  let found ← (stream.read place wanted).mapError .packing
  if found.size < wanted then throw .contentEnds else return found

/-- The most of a scattered file that is kept. Nothing but gaps makes a file so large. -/
def keptLimit : Nat := 0x1000000

/-- Bytes with others put over them from a place on, up to a limit. What lies between is zero. -/
def overlay (found : ByteArray) (limit start : Nat) (part : ByteArray) : ByteArray :=
  if part.isEmpty || limit ≤ start then found
  else
    let kept := slice part 0 (limit - start)
    let gap : ByteArray := ⟨Array.replicate (start - found.size) 0⟩
    slice (found ++ gap) 0 start ++ kept ++ slice found (start + kept.size) found.size

/-- A content whose parts stand one behind the other from a place on, put where they belong. -/
def Stream.partsFrom (stream : Stream) (limit place : Nat) (found : ByteArray) :
    List Part → Except TapeFault ByteArray
  | [] => .ok found
  | (start, size) :: rest => do
    if start < 0 then throw .noPlace
    if countLimit ≤ start then throw .placeTooFar
    let part ← stream.content? place size
    stream.partsFrom limit (place + part.size) (overlay found limit start.toNat part) rest

/-- The content of a member. -/
def TapeMember.content (member : TapeMember) (stream : Stream) : Except TapeFault ByteArray := do
  match member.parts? with
  | none => stream.content? member.contentPlace member.size
  | some parts =>
    let limit := min member.size.toNat keptLimit
    let found ← stream.partsFrom limit member.contentPlace .empty parts
    if member.size < 0 then throw .noPlace
    if countLimit ≤ member.size then throw .placeTooFar
    return found ++ ⟨Array.replicate (limit - found.size) 0⟩

end SelectionGen.Archive
