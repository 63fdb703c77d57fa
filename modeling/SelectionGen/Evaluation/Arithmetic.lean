import SelectionGen.Evaluation.Comparison
import SelectionGen.Number.Bits

/-! Arithmetic. Numbers of two kinds meet at the more general one: whole numbers, then those with a point,
then those with an imaginary part. -/
namespace SelectionGen.Evaluation

open Target

/-- The sign of an operator. -/
def BinaryOperator.sign : BinaryOperator → String
  | .or => "|"
  | .xor => "^"
  | .and => "&"
  | .shiftLeft => "<<"
  | .shiftRight => ">>"
  | .add => "+"
  | .subtract => "-"
  | .multiply => "*"
  | .multiplyMatrices => "@"
  | .divide => "/"
  | .floorDivide => "//"
  | .remainder => "%"
  | .power => "**"

/-- The name that members for an operator are made from. -/
def BinaryOperator.memberName : BinaryOperator → String
  | .or => "or"
  | .xor => "xor"
  | .and => "and"
  | .shiftLeft => "lshift"
  | .shiftRight => "rshift"
  | .add => "add"
  | .subtract => "sub"
  | .multiply => "mul"
  | .multiplyMatrices => "matmul"
  | .divide => "truediv"
  | .floorDivide => "floordiv"
  | .remainder => "mod"
  | .power => "pow"

def raiseDivision (message : String) : Evaluated α := raise "ZeroDivisionError" message

def raiseOverflow (message : String) : Evaluated α := raise "OverflowError" message

/-- How many bits a result can have that is still worked out. -/
def bitLimit : Nat := 4000000

/-- The number of the machine for a whole number. -/
def realOf (value : Int) : Evaluated Float := do
  match Number.realOfWhole? value with
  | some found => return found
  | none => raiseOverflow "int too large to convert to float"

/-- A number that went out of range. -/
def outOfRange : Evaluated α :=
  raiseWith "OverflowError" [.whole 34, .text "Numerical result out of range"] []

/-- A number as a quotient with a sign, if it is finite. -/
def signedQuotient? (value : Float) : Option (Int × Nat) :=
  match Number.Exact.ofFloat value with
  | .finite isNegative magnitude =>
    let (above, below) := magnitude.asQuotient
    some (if isNegative then -(above : Int) else above, below)
  | _ => none

/-- Whether a number has a minus in front, zero included. -/
def hasMinus (value : Float) : Bool := value.toBits ≥ 0x8000000000000000

/-- A number with the sign of another one. -/
def withSignOf (value sign : Float) : Float := if hasMinus sign then -value.abs else value.abs

/-- What is left of a division towards zero, with the sign of the dividend. -/
def remainderToZero (a b : Float) : Float :=
  match signedQuotient? a, signedQuotient? b with
  | some (x, u), some (y, v) =>
    let left := Int.tmod (x * v) (y * u)
    ((Number.realOfQuotient? (hasMinus a) left.natAbs (u * v)).getD 0.0)
  | some _, none => if b.isNaN then b else a
  | _, _ => 0.0 / 0.0

/-- The quotient rounded down and the remainder, for a divisor that is not zero. -/
def floorDivision (a b : Float) : Float × Float :=
  let left := remainderToZero a b
  let quotient := (a - left) / b
  let (left, quotient) :=
    if left != 0.0 then
      if (b < 0.0) != (left < 0.0) then (left + b, quotient - 1.0) else (left, quotient)
    else (withSignOf 0.0 b, quotient)
  if quotient != 0.0 then
    let down := quotient.floor
    (if quotient - down > 0.5 then down + 1.0 else down, left)
  else (withSignOf 0.0 (a / b), left)

/-- A complex number raised to a power. -/
def complexPower (a b c d : Float) : Float × Float :=
  if c == 0.0 && d == 0.0 then (1.0, 0.0)
  else if a == 0.0 && b == 0.0 then (0.0, 0.0)
  else
    let size := (a * a + b * b).sqrt
    let angle := Float.atan2 b a
    let length := size.pow c
    let turned := angle * c
    if d != 0.0 then
      let length := length / (angle * d).exp
      let turned := turned + d * size.log
      (length * turned.cos, length * turned.sin)
    else (length * turned.cos, length * turned.sin)

/-- A number raised to a power. -/
def realPower (a b : Float) : Evaluated Value := do
  if b == 0.0 || a == 1.0 then return .real 1.0
  else if a == 0.0 && b < 0.0 then raiseDivision "0.0 cannot be raised to a negative power"
  else if a < 0.0 && a.isFinite && b.isFinite && !Number.isWhole b then
    let (first, second) := complexPower a 0.0 b 0.0
    return .complex first second
  else
    let found := a.pow b
    if found.isInf && a.isFinite && b.isFinite then outOfRange else return .real found

/-- Whole numbers under an operator. -/
def wholeOperation (operator : BinaryOperator) (a b : Int) : Evaluated Value := do
  match operator with
  | .or => return .whole (Number.Bits.either a b)
  | .xor => return .whole (Number.Bits.one a b)
  | .and => return .whole (Number.Bits.both a b)
  | .add => return .whole (a + b)
  | .subtract => return .whole (a - b)
  | .multiply => return .whole (a * b)
  | .shiftLeft =>
    if b < 0 then raise "ValueError" "negative shift count"
    else if bitLimit < b.toNat then giveUp
    else return .whole (Number.Bits.up a b.toNat)
  | .shiftRight =>
    if b < 0 then raise "ValueError" "negative shift count"
    else return .whole (Number.Bits.down a (min b.toNat (Number.Bits.length a + 1)))
  | .divide =>
    if b = 0 then raiseDivision "division by zero"
    else
      match Number.realOfQuotient? (decide (a < 0) != decide (b < 0)) a.natAbs b.natAbs with
      | some found => return .real found
      | none => raiseOverflow "integer division result too large for a float"
  | .floorDivide =>
    if b = 0 then raiseDivision "integer division or modulo by zero" else return .whole (Int.fdiv a b)
  | .remainder =>
    if b = 0 then raiseDivision "integer modulo by zero" else return .whole (Int.fmod a b)
  | .power =>
    if b < 0 then
      if a = 0 then raiseDivision "0.0 cannot be raised to a negative power"
      else realPower (← realOf a) (← realOf b)
    else if bitLimit < Number.Bits.length a * b.toNat ∧ 1 < a.natAbs then giveUp
    else if a.natAbs ≤ 1 then
      return .whole (if b = 0 then 1 else if a = -1 ∧ b % 2 = 0 then 1 else a)
    else
      let size := Nat.pow a.natAbs b.toNat
      return .whole (if a < 0 ∧ b % 2 = 1 then -(size : Int) else size)
  | .multiplyMatrices => return .undecided

/-- Numbers of the machine under an operator. -/
def realOperation (operator : BinaryOperator) (a b : Float) : Evaluated Value := do
  match operator with
  | .add => return .real (a + b)
  | .subtract => return .real (a - b)
  | .multiply => return .real (a * b)
  | .divide => if b == 0.0 then raiseDivision "float division by zero" else return .real (a / b)
  | .floorDivide =>
    if b == 0.0 then raiseDivision "float floor division by zero"
    else return .real (floorDivision a b).1
  | .remainder =>
    if b == 0.0 then raiseDivision "float modulo" else return .real (floorDivision a b).2
  | .power => realPower a b
  | _ => return .undecided

/-- Complex numbers under an operator. -/
def complexOperation (operator : BinaryOperator) (a b c d : Float) : Evaluated Value := do
  match operator with
  | .add => return .complex (a + c) (b + d)
  | .subtract => return .complex (a - c) (b - d)
  | .multiply => return .complex (a * c - b * d) (a * d + b * c)
  | .divide =>
    if c == 0.0 && d == 0.0 then raiseDivision "complex division by zero"
    else if c.abs ≥ d.abs then
      let ratio := d / c
      let below := c + d * ratio
      return .complex ((a + b * ratio) / below) ((b - a * ratio) / below)
    else
      let ratio := c / d
      let below := c * ratio + d
      return .complex ((a * ratio + b) / below) ((b * ratio - a) / below)
  | .power =>
    if a == 0.0 && b == 0.0 && (c < 0.0 || d != 0.0) then
      raiseDivision "0.0 to a negative or complex power"
    else
      let (first, second) := complexPower a b c d
      return .complex first second
  | _ => return .undecided

/-- The number of the machine for a number without an imaginary part. -/
def realOfQuantity : Value.Quantity → Evaluated Float
  | .whole value => realOf value
  | .real value => return value
  | .complex first _ => return first

/-- The imaginary part of a number. -/
def imaginaryOf : Value.Quantity → Float
  | .complex _ second => second
  | _ => 0.0

/-- Numbers under an operator; undecided where the operator says nothing about them. -/
def numberOperation (operator : BinaryOperator) (a b : Value.Quantity) : Evaluated Value := do
  match a, b with
  | .whole a, .whole b => wholeOperation operator a b
  | .complex .., _ | _, .complex .. =>
    complexOperation operator (← realOfQuantity a) (imaginaryOf a) (← realOfQuantity b) (imaginaryOf b)
  | a, b =>
    match operator with
    | .or | .xor | .and | .shiftLeft | .shiftRight | .multiplyMatrices => return .undecided
    | _ => realOperation operator (← realOfQuantity a) (← realOfQuantity b)

/-- A number under an operator in front of it. -/
def signOperation? (operator : UnaryOperator) (value : Value.Quantity) : Option Value :=
  match operator, value with
  | .negate, .whole value => some (.whole (-value))
  | .negate, .real value => some (.real (-value))
  | .negate, .complex a b => some (.complex (-a) (-b))
  | .keep, .whole value => some (.whole value)
  | .keep, .real value => some (.real value)
  | .keep, .complex a b => some (.complex a b)
  | .invert, .whole value => some (.whole (Number.Bits.complement value))
  | _, _ => none

/-- A whole number raised to a power and reduced, over the bits of the exponent. -/
def powerModulo (base modulus : Int) : Nat → Nat → Int → Int
  | 0, _, result => result
  | _, 0, result => result
  | count + 1, exponent, result =>
    powerModulo (Int.fmod (base * base) modulus) modulus count (exponent / 2)
      (if exponent % 2 = 1 then Int.fmod (result * base) modulus else result)

/-- The number that multiplied with a number gives one, up to a modulus, if there is one. -/
def inverseModulo? (value modulus : Int) : Option Int :=
  let rec go : Nat → Int → Int → Int → Int → Option Int
    | 0, _, _, _, _ => none
    | count + 1, a, b, x, y =>
      if b = 0 then if a = 1 then some (Int.fmod x modulus) else none
      else go count b (Int.fmod a b) y (x - Int.fdiv a b * y)
  go (2 * Number.Bits.length modulus + 4) (Int.fmod value modulus.natAbs) modulus.natAbs 1 0

/-- A power reduced by a modulus. -/
def reducedPower (base exponent modulus : Int) : Evaluated Value := do
  if modulus = 0 then raise "ValueError" "pow() 3rd argument cannot be 0"
  else if exponent < 0 then
    match inverseModulo? base modulus with
    | some inverse =>
      return .whole (Int.fmod (powerModulo inverse modulus (Number.Bits.length exponent + 1)
        exponent.natAbs 1) modulus)
    | none => raise "ValueError" "base is not invertible for the given modulus"
  else
    return .whole (Int.fmod (powerModulo (Int.fmod base modulus) modulus
      (Number.Bits.length exponent + 1) exponent.toNat 1) modulus)

end SelectionGen.Evaluation
