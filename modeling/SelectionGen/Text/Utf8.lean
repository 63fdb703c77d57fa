/-! Reading bytes as UTF-8. A fault names the shortest run of bytes that cannot belong to any character:
the bytes that fitted so far, without the one that broke the sequence, or all that is left when the
input stops in the middle of a character. -/
namespace SelectionGen.Text.Utf8

inductive Fault
  | invalidStart
  | invalidContinuation
  | unexpectedEnd
deriving DecidableEq, Repr

def Fault.message : Fault → String
  | .invalidStart => "invalid start byte"
  | .invalidContinuation => "invalid continuation byte"
  | .unexpectedEnd => "unexpected end of data"

/-- A fault, the bytes from its start on, and how many of them it covers. -/
structure DecodeError where
  fault : Fault
  start : Nat
  width : Nat
  byte : UInt8
deriving DecidableEq, Repr

/-- Two digits of base sixteen. -/
def byteText (byte : UInt8) : String :=
  let digits := Nat.toDigits 16 byte.toNat
  String.ofList (List.replicate (2 - digits.length) '0' ++ digits)

def DecodeError.message (error : DecodeError) : String :=
  let place :=
    if error.width = 1 then
      "byte 0x" ++ byteText error.byte ++ " in position " ++ toString error.start
    else
      "bytes in position " ++ toString error.start ++ "-" ++ toString (error.start + error.width - 1)
  "'utf-8' codec can't decode " ++ place ++ ": " ++ error.fault.message

/-- How many bytes follow a lead byte, and the bounds of the first of them. Later ones lie between
`0x80` and `0xBF`. The bounds keep out overlong forms, surrogates and numbers past the last code point. -/
def leadShape? (lead : UInt8) : Option (Nat × UInt8 × UInt8) :=
  if lead < 0x80 then some (0, 0, 0)
  else if lead < 0xC2 then none
  else if lead < 0xE0 then some (1, 0x80, 0xBF)
  else if lead = 0xE0 then some (2, 0xA0, 0xBF)
  else if lead = 0xED then some (2, 0x80, 0x9F)
  else if lead < 0xF0 then some (2, 0x80, 0xBF)
  else if lead = 0xF0 then some (3, 0x90, 0xBF)
  else if lead < 0xF4 then some (3, 0x80, 0xBF)
  else if lead = 0xF4 then some (3, 0x80, 0x8F)
  else none

/-- Checks the bytes behind a lead byte. On a fault, how many bytes of the character were right. -/
def continuation : Nat → UInt8 → UInt8 → List UInt8 → Except (Fault × Nat) Unit
  | 0, _, _, _ => .ok ()
  | _ + 1, _, _, [] => .error (.unexpectedEnd, 1)
  | count + 1, low, high, byte :: rest =>
    if low ≤ byte ∧ byte ≤ high then
      (continuation count 0x80 0xBF rest).mapError fun (fault, right) => (fault, right + 1)
    else .error (.invalidContinuation, 1)

/-- The number spelled by a lead byte with `count` bytes behind it. -/
def codePoint (lead : UInt8) (count : Nat) (rest : List UInt8) : Nat :=
  let top := match count with
    | 0 => lead.toNat
    | 1 => lead.toNat - 0xC0
    | 2 => lead.toNat - 0xE0
    | _ => lead.toNat - 0xF0
  (rest.take count).foldl (fun value byte => value * 64 + (byte.toNat - 0x80)) top

/-- The characters of a byte sequence that starts at the given position. -/
def decodeFrom (bytes : List UInt8) (start : Nat) : Except DecodeError (List Char) :=
  match bytes with
  | [] => .ok []
  | lead :: rest =>
    match leadShape? lead with
    | none => .error ⟨.invalidStart, start, 1, lead⟩
    | some (count, low, high) =>
      match continuation count low high rest with
      | .error (fault, right) => .error ⟨fault, start, right, lead⟩
      | .ok () => do
        let behind ← decodeFrom (rest.drop count) (start + 1 + count)
        return Char.ofNat (codePoint lead count rest) :: behind
termination_by bytes.length

/-- Stands for a byte that belongs to no character. -/
def strayByte (byte : UInt8) : Char := Char.ofNat (0xE000 + byte.toNat)

/-- The characters of a byte sequence, where bytes that belong to none stand for themselves. -/
def lenientFrom (bytes : List UInt8) : List Char :=
  match bytes with
  | [] => []
  | lead :: rest =>
    match leadShape? lead with
    | none => strayByte lead :: lenientFrom rest
    | some (count, low, high) =>
      match continuation count low high rest with
      | .error _ => strayByte lead :: lenientFrom rest
      | .ok () => Char.ofNat (codePoint lead count rest) :: lenientFrom (rest.drop count)
termination_by bytes.length

/-- The text of a byte sequence, whatever it holds. -/
def lenient (bytes : ByteArray) : String := String.ofList (lenientFrom bytes.data.toList)

def decode (bytes : ByteArray) : Except DecodeError String := do
  return String.ofList (← decodeFrom bytes.data.toList 0)

end SelectionGen.Text.Utf8
