import SelectionGen.Archive.Inflate

/-! Packed streams as they stand in files: a header, the packed content, its check sum and its size, and
possibly more of the same behind. A reader that stops early never learns of a fault further on, so the
content comes with its fault beside it. -/
namespace SelectionGen.Archive

/-- How a packed stream can be at fault. -/
inductive PackingFault
  | ends
  | damaged (damage : DeflateDamage)
  | notPacked (mark : List UInt8)
  | unknownMethod
  | wrongSum (told found : Nat)
  | wrongSize
deriving DecidableEq

def PackingFault.message : PackingFault → String
  | ends => "Compressed file ended before the end-of-stream marker was reached"
  | damaged damage => damage.message
  | notPacked mark => "Not a gzipped file (" ++ quotedBytes mark ++ ")"
  | unknownMethod => "Unknown compression method"
  | wrongSum told found =>
    let shown (value : Nat) := "0x" ++ String.ofList (Nat.toDigits 16 value)
    "CRC check failed " ++ shown told ++ " != " ++ shown found
  | wrongSize => "Incorrect length of data produced"

/-- The content of a stream up to its fault, or all of it. -/
structure Stream where
  content : ByteArray
  fault? : Option PackingFault

/-- The place behind a text that a zero byte ends, or the end of the file if that comes first. -/
def behindZero (bytes : ByteArray) (start : Nat) : Nat :=
  match (List.range' start (bytes.size - start)).find? fun place => bytes[place]? == some 0 with
  | some place => place + 1
  | none => max start bytes.size

/-- The place so many bytes further on, if the file goes that far. -/
def forward (bytes : ByteArray) (start width : Nat) : Except PackingFault Nat :=
  if bytes.size < start + width then .error .ends else .ok (start + width)

/-- Where the content behind a header begins. -/
def contentStart (bytes : ByteArray) (start : Nat) : Except PackingFault Nat := do
  let mark := slice bytes start (start + 2)
  if mark.toList ≠ [0x1F, 0x8B] then throw (.notPacked mark.toList)
  let mut place ← forward bytes start 10
  if numberAt bytes (start + 2) 1 ≠ 8 then throw .unknownMethod
  let flags := numberAt bytes (start + 3) 1
  if flags.testBit 2 then
    let behind ← forward bytes place 2
    place ← forward bytes behind (numberAt bytes place 2)
  if flags.testBit 3 then place := behindZero bytes place
  if flags.testBit 4 then place := behindZero bytes place
  if flags.testBit 1 then place ← forward bytes place 2
  return place

/-- A reader takes up to so many bytes at a time and loses all of them if it meets damage. -/
def portion : Nat := 8192

/-- What a reader has of a content in which there is a fault behind what was given. -/
def undamaged (found : ByteArray) : StreamFault DeflateDamage → ByteArray × PackingFault
  | .ends => (found, .ends)
  | .damaged damage => (found.extract 0 (found.size / portion * portion), .damaged damage)

/-- The check sum and the size behind a content, and the place behind them. -/
def checkedEnd (bytes : ByteArray) (content : ByteArray) (start : Nat) : Except PackingFault Nat := do
  let stop ← forward bytes start 8
  let told := numberAt bytes start 4
  let found := (checksum content).toNat
  if told ≠ found then throw (.wrongSum told found)
  else if numberAt bytes (start + 4) 4 ≠ content.size % 0x100000000 then throw .wrongSize
  else return stop

/-- The stream from a place on. Zero bytes behind a part are no new part. -/
def streamFrom (bytes : ByteArray) : Nat → Nat → Stream
  | 0, _ => ⟨.empty, none⟩
  | bound + 1, start =>
    match contentStart bytes start with
    | .error fault => ⟨.empty, some fault⟩
    | .ok place =>
      let part := inflate bytes place
      match part.fault? with
      | some fault =>
        let (content, fault) := undamaged part.output fault
        ⟨content, some fault⟩
      | none =>
        match checkedEnd bytes part.output part.stop with
        | .error fault => ⟨part.output, some fault⟩
        | .ok stop =>
          match (List.range' stop (bytes.size - stop)).find? fun place => bytes[place]? != some 0 with
          | none => ⟨part.output, none⟩
          | some next =>
            let more := streamFrom bytes bound next
            ⟨part.output ++ more.content, more.fault?⟩

/-- The stream that a file is. A file without any bytes is a stream without content. -/
def Stream.ofFile (bytes : ByteArray) : Stream :=
  if bytes.isEmpty then ⟨.empty, none⟩ else streamFrom bytes bytes.size 0

end SelectionGen.Archive
