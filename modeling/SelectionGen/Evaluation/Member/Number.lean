import SelectionGen.Evaluation.Arguments

/-! Members of numbers: rounding, quotients, bytes, and the numbers that stand for values in tables. -/
namespace SelectionGen.Evaluation

open Target

/-- The modulus of the numbers that stand for values. -/
def hashModulus : Nat := Nat.pow 2 61 - 1

/-- A number below the modulus with a sign; the one below zero that is nearest to it stands for a fault. -/
def signedHash (isNegative : Bool) (value : Nat) : Int :=
  let found : Int := if isNegative then -(value : Int) else value
  if found = -1 then -2 else found

/-- The number that stands for a whole number. -/
def hashOfWhole (value : Int) : Int := signedHash (value < 0) (value.natAbs % hashModulus)

/-- The number that stands for a number with a point: it is reduced as a quotient is, so that equal numbers have the
same. -/
def hashOfReal (value : Float) : Int :=
  match Number.Exact.ofFloat value with
  | .infinite isNegative => if isNegative then -314159 else 314159
  | .notANumber => 0
  | .finite isNegative magnitude =>
    let shift := (magnitude.exponent % 61).toNat
    signedHash isNegative (magnitude.significand * Nat.pow 2 shift % hashModulus)

/-- The number that stands for a number, if it is one. -/
def hashOfNumber? : Value.Quantity → Option Int
  | .whole value => some (hashOfWhole value)
  | .real value => some (hashOfReal value)
  | .complex first second =>
    let width : Int := Nat.pow 2 64
    let found := (hashOfReal first + 1000003 * hashOfReal second) % width
    let found := if Nat.pow 2 63 ≤ found then found - width else found
    some (if found = -1 then -2 else found)

/-- A whole number rounded to a power of ten, halves to the even neighbour. -/
def roundedWhole (value : Int) (places : Int) : Int :=
  if 0 ≤ places then value
  else
    let unit := Nat.pow 10 (-places).toNat
    let found := Number.roundedQuotient value.natAbs unit * unit
    if value < 0 then -(found : Int) else found

/-- A number rounded to so many places behind the point, as its decimal digits say. -/
def roundedReal (value : Float) (places : Int) : Evaluated Float := do
  if !value.isFinite || 323 < places then return value
  else if places < -308 then return withSignOf 0.0 value
  else
    match signedQuotient? value with
    | none => return value
    | some (above, below) =>
      let scale := Nat.pow 10 places.natAbs
      let (numerator, denominator) := if 0 ≤ places then (above.natAbs * scale, below)
        else (above.natAbs, below * scale)
      let found := Number.roundedQuotient numerator denominator
      let (numerator, denominator) := if 0 ≤ places then (found, scale) else (found * scale, 1)
      match Number.realOfQuotient? (hasMinus value) numerator denominator with
      | some found => return found
      | none => raiseOverflow "rounded value too large to represent"

/-- The nearest whole number, of two the even one. -/
def nearestWhole (value : Float) : Evaluated Int := do
  match signedQuotient? value with
  | some (above, below) =>
    let found : Int := Number.roundedQuotient above.natAbs below
    return if above < 0 then -found else found
  | none => wholeOfReal value

/-- The whole numbers below and above. -/
def floorOf (value : Float) : Evaluated Int := do
  match signedQuotient? value with
  | some (above, below) => return Int.fdiv above below
  | none => wholeOfReal value

def ceilingOf (value : Float) : Evaluated Int := do
  match signedQuotient? value with
  | some (above, below) => return -(Int.fdiv (-above) below)
  | none => wholeOfReal value

/-- A number as a quotient in lowest terms. -/
def asQuotient (value : Float) : Evaluated Value := do
  match signedQuotient? value with
  | some (above, below) =>
    let common := Nat.gcd above.natAbs below
    return .tuple [.whole (above / common), .whole ((below : Int) / common)]
  | none =>
    if value.isNaN then raise "ValueError" "cannot convert NaN to integer ratio"
    else raiseOverflow "cannot convert Infinity to integer ratio"

/-- A number in base sixteen with an exponent of two. -/
def inBaseSixteen (value : Float) : String :=
  let sign := if hasMinus value then "-" else ""
  match Number.Exact.ofFloat value with
  | .notANumber => "nan"
  | .infinite _ => sign ++ "inf"
  | .finite _ magnitude =>
    if magnitude.significand = 0 then sign ++ "0x0.0p+0"
    else
      let hidden := Nat.pow 2 52
      let lead := magnitude.significand / hidden
      let digits := String.ofList (Text.Quoted.hexDigits 13 (magnitude.significand % hidden))
      let exponent := magnitude.exponent + 52
      sign ++ "0x" ++ toString lead ++ "." ++ digits ++ "p" ++ (if exponent < 0 then "-" else "+")
        ++ toString exponent.natAbs

/-- Whether the first byte is the highest one. -/
def byteOrder (function : String) (value : Option Value) : Evaluated Bool := do
  match value with
  | none => return true
  | some value =>
    match ← textOfArgument function "argument 'byteorder'" value with
    | "big" => return true
    | "little" => return false
    | _ => raise "ValueError" "byteorder must be either 'little' or 'big'"

/-- A number as so many bytes, the highest first. -/
def bytesOfWhole (value : Int) (size : Nat) (isSigned : Bool) : Evaluated (List UInt8) := do
  if value < 0 ∧ !isSigned then raiseOverflow "can't convert negative int to unsigned"
  let limit : Int := Nat.pow 2 (8 * size)
  let fits := if isSigned then -limit ≤ 2 * value ∧ 2 * value < limit else value < limit
  if !fits then raiseOverflow "int too big to convert"
  let plain := (value % limit).toNat
  return ((List.range size).map fun place => UInt8.ofNat (plain / Nat.pow 256 place)).reverse

/-- The number that bytes stand for, the highest first. -/
def wholeOfBytes (bytes : List UInt8) (isSigned : Bool) : Int :=
  let plain := bytes.foldl (fun value byte => 256 * value + byte.toNat) 0
  let limit := Nat.pow 256 bytes.length
  if isSigned && limit ≤ 2 * plain && !bytes.isEmpty then (plain : Int) - limit else plain

/-- The bytes of a value that numbers are read from. -/
def bytesForNumber (value : Value) : Evaluated (List UInt8) := do
  let found ← core value
  match ← bytesOf? found with
  | some bytes => return bytes
  | none =>
    let isText := found matches .text _
    if isText || (← memberIfAny? value "__iter__").isNone then
      refuse ("cannot convert '" ++ (← typeName value) ++ "' object to bytes")
    else (← elementsOf value).mapM byteOf

/-- Calls a member of a whole number. -/
def callOfWhole (name : String) (value : Int) (given : Given) : Evaluated Value := do
  match name with
  | "conjugate" | "__trunc__" | "__floor__" | "__ceil__" => return .whole value
  | "bit_length" => return .whole (Number.Bits.length value)
  | "bit_count" => return .whole (Number.Bits.ones value)
  | "as_integer_ratio" => return .tuple [.whole value, .whole 1]
  | "__getnewargs__" => return .tuple [.whole value]
  | "__round__" =>
    match given.at? 0 with
    | none => return .whole value
    | some places => return .whole (roundedWhole value (← indexOf places))
  | "__sizeof__" =>
    let digits := (Number.Bits.length value + 29) / 30
    return .whole (24 + 4 * (max digits 1))
  | "to_bytes" =>
    match ← given.arranged name 0 ["length", "byteorder", "signed"] with
    | [size, order, isSigned] =>
      let size ← numberOr 1 size
      let isBig ← byteOrder name order
      let isSigned ← match isSigned with
        | none => pure false
        | some value => truthOf value
      if size < 0 then raise "ValueError" "length argument must be non-negative"
      if sizeLimit < size.toNat then giveUp
      let bytes ← bytesOfWhole value size.toNat isSigned
      return .bytes (if isBig then bytes else bytes.reverse)
    | _ => giveUp
  | "from_bytes" =>
    match ← given.arranged name 0 ["bytes", "byteorder", "signed"] with
    | [none, _, _] => refuse "from_bytes() missing required argument 'bytes' (pos 1)"
    | [some source, order, isSigned] =>
      let isBig ← byteOrder name order
      let isSigned ← match isSigned with
        | none => pure false
        | some value => truthOf value
      let bytes ← bytesForNumber source
      return .whole (wholeOfBytes (if isBig then bytes else bytes.reverse) isSigned)
    | _ => giveUp
  | _ => giveUp

/-- Calls a member of a number with a point. -/
def callOfReal (name : String) (value : Float) (given : Given) : Evaluated Value := do
  match name with
  | "conjugate" => return .real value
  | "__trunc__" => return .whole (← wholeOfReal value)
  | "__floor__" => return .whole (← floorOf value)
  | "__ceil__" => return .whole (← ceilingOf value)
  | "is_integer" => return .truth (Number.isWhole value)
  | "as_integer_ratio" => asQuotient value
  | "hex" => return .text (inBaseSixteen value)
  | "__getnewargs__" => return .tuple [.real value]
  | "__sizeof__" => return .whole 24
  | "__round__" =>
    match given.at? 0 with
    | none | some .nothing => return .whole (← nearestWhole value)
    | some places => return .real (← roundedReal value (← indexOf places))
  | "__getformat__" =>
    match (given.at? 0).getD .nothing with
    | .text "double" | .text "float" => return .text "IEEE, little-endian"
    | .text _ => raise "ValueError" "__getformat__() argument 1 must be 'double' or 'float'"
    | other => refuse ("__getformat__() argument must be str, not " ++ (← shownType other))
  | _ => giveUp

/-- Calls a member of a complex number. -/
def callOfComplex (name : String) (first second : Float) : Evaluated Value := do
  match name with
  | "conjugate" => return .complex first (-second)
  | "__complex__" => return .complex first second
  | "__getnewargs__" => return .tuple [.real first, .real second]
  | _ => giveUp

/-- The size of a number. -/
def sizeOfNumber (operand : Value.Quantity) : Evaluated Value := do
  match operand with
  | .whole value => return .whole value.natAbs
  | .real value => return .real value.abs
  | .complex first second => return .real (first * first + second * second).sqrt

/-- Quotient and remainder of two numbers; undecided for complex ones. -/
def quotientAndRemainder (a b : Value.Quantity) : Evaluated Value := do
  match a, b with
  | .complex .., _ | _, .complex .. => return .undecided
  | .whole _, .whole b =>
    if b = 0 then raiseDivision "integer division or modulo by zero"
    else
      return .tuple [← numberOperation .floorDivide a (.whole b),
        ← numberOperation .remainder a (.whole b)]
  | _, _ =>
    if (← realOfQuantity b) == 0.0 then raiseDivision "float divmod()"
    else
      return .tuple [← numberOperation .floorDivide a b, ← numberOperation .remainder a b]

end SelectionGen.Evaluation
