import SelectionGen.Number.FloatingPoint

/-! Floating-point numbers between the machine and exact arithmetic: what a number is exactly, the number
nearest to an exact one, and the decimal digits that stand for a number. -/
namespace SelectionGen.Number

/-- What a number of the machine is exactly. -/
inductive Exact
  | finite (isNegative : Bool) (magnitude : FloatingPoint)
  | infinite (isNegative : Bool)
  | notANumber
deriving DecidableEq, Repr

namespace Exact

/-- Takes the bits of a number apart: a sign, eleven bits of exponent and fifty-two of significand. -/
def ofFloat (number : Float) : Exact :=
  let bits := number.toBits.toNat
  let isNegative := Nat.pow 2 63 ≤ bits
  let exponent := bits / Nat.pow 2 52 % Nat.pow 2 11
  let significand := bits % Nat.pow 2 52
  if exponent = 2047 then if significand = 0 then .infinite isNegative else .notANumber
  else if exponent = 0 then .finite isNegative ⟨significand, FloatingPoint.leastExponent⟩
  else .finite isNegative ⟨Nat.pow 2 52 + significand, (exponent : Int) - 1075⟩

end Exact

namespace FloatingPoint

/-- The number of the machine. -/
def toFloat (number : FloatingPoint) : Float := (Float.ofNat number.significand).scaleB number.exponent

/-- The number as a quotient. -/
def asQuotient (number : FloatingPoint) : Nat × Nat :=
  if 0 ≤ number.exponent then (number.significand * Nat.pow 2 number.exponent.toNat, 1)
  else (number.significand, Nat.pow 2 (-number.exponent).toNat)

/-- Whether a number is below the limit. -/
def isInRange (number : FloatingPoint) : Bool :=
  number.significand = 0 || (number.significand.log2 : Int) + number.exponent < exponentLimit

end FloatingPoint

/-- What is past the last number, with a sign. -/
def infinity (isNegative : Bool) : Float := if isNegative then -(1.0 / 0.0) else 1.0 / 0.0

/-- The number of the machine nearest to a quotient, if it is in range. -/
def realOfQuotient? (isNegative : Bool) (numerator denominator : Nat) : Option Float :=
  if numerator = 0 then some (if isNegative then -0.0 else 0.0)
  else
    let found := FloatingPoint.nearest numerator denominator
    if found.isInRange then some (if isNegative then -found.toFloat else found.toFloat) else none

/-- The number of the machine nearest to a whole number, if it is in range. -/
def realOfWhole? (value : Int) : Option Float := realOfQuotient? (value < 0) value.natAbs 1

/-- The number of the machine nearest to `mantissa * 10 ^ exponent`. -/
def realOfDecimal (isNegative : Bool) (mantissa : Nat) (exponent : Int) : Float :=
  match FloatingPoint.ofDecimal? mantissa exponent with
  | some found => if isNegative then -found.toFloat else found.toFloat
  | none => infinity isNegative

/-- The whole number towards zero from a number, if it is finite. -/
def truncated? (number : Float) : Option Int :=
  match Exact.ofFloat number with
  | .finite isNegative magnitude =>
    let (above, below) := magnitude.asQuotient
    some (if isNegative then -((above / below : Nat) : Int) else (above / below : Nat))
  | _ => none

/-- Whether a number of the machine is a whole number. -/
def isWhole (number : Float) : Bool :=
  match Exact.ofFloat number with
  | .finite _ magnitude => magnitude.whole?.isSome
  | _ => false

/-- Whether a number of the machine is the given whole number. -/
def equalsWhole (number : Float) (value : Int) : Bool :=
  match Exact.ofFloat number with
  | .finite isNegative magnitude =>
    match magnitude.whole? with
    | some whole => (if isNegative then -(whole : Int) else whole) = value
    | none => false
  | _ => false

/-- Whether a number of the machine is below the given whole number. -/
def isBelowWhole (number : Float) (value : Int) : Bool :=
  match Exact.ofFloat number with
  | .finite isNegative magnitude =>
    let (above, below) := magnitude.asQuotient
    (if isNegative then -(above : Int) else above) < value * below
  | .infinite isNegative => isNegative
  | .notANumber => false

/-- Whether a number of the machine is above the given whole number. -/
def isAboveWhole (number : Float) (value : Int) : Bool :=
  match Exact.ofFloat number with
  | .finite isNegative magnitude =>
    let (above, below) := magnitude.asQuotient
    value * below < (if isNegative then -(above : Int) else above)
  | .infinite isNegative => !isNegative
  | .notANumber => false

/-- Decimal digits and the power of ten that the first of them stands for. -/
structure Digits where
  digits : Nat
  count : Nat
  power : Int
deriving DecidableEq, Repr

namespace Digits

/-- A quotient times a power of ten, as numerator and denominator. -/
def shifted (numerator denominator : Nat) (power : Int) : Nat × Nat :=
  if 0 ≤ power then (numerator * Nat.pow 10 power.toNat, denominator)
  else (numerator, denominator * Nat.pow 10 (-power).toNat)

/-- The power of ten of the first digit of a quotient that is not zero. -/
def powerOf (numerator denominator : Nat) : Int :=
  let guess : Int :=
    (Nat.toDigits 10 numerator).length - (Nat.toDigits 10 denominator).length
  let (above, below) := shifted numerator denominator (-guess)
  if above < below then guess - 1 else guess

/-- The whole numbers on both sides of a quotient, the nearer one first; of two that are equally near, the
even one. -/
def neighbours (numerator denominator : Nat) : Nat × Nat :=
  let low := numerator / denominator
  let nearer := roundedQuotient numerator denominator
  if nearer = low then (low, low + 1) else (low + 1, low)

/-- Digits without zeros at the end. -/
def withoutZeros : Nat → Digits → Digits
  | 0, digits => digits
  | count + 1, found =>
    if 1 < found.count ∧ found.digits % 10 = 0 then
      withoutZeros count { found with digits := found.digits / 10, count := found.count - 1 }
    else found

/-- Digits that may be one too many because of what was carried. -/
def carried (digits count : Nat) (power : Int) : Digits :=
  if Nat.pow 10 count ≤ digits then ⟨digits / 10, count, power + 1⟩ else ⟨digits, count, power⟩

/-- A given number of digits of a quotient that is not zero, rounded. -/
def rounded (numerator denominator count : Nat) : Digits :=
  let power := powerOf numerator denominator
  let (above, below) := shifted numerator denominator (count - 1 - power)
  carried (roundedQuotient above below) count power

/-- The first of two neighbours on the grid of so many digits that reads back as the number. -/
def readingBack? (number : FloatingPoint) (count : Nat) : Option Digits :=
  let (numerator, denominator) := number.asQuotient
  let power := powerOf numerator denominator
  let (above, below) := shifted numerator denominator (count - 1 - power)
  let (first, second) := neighbours above below
  let readsBack (digits : Nat) : Bool :=
    match FloatingPoint.ofDecimal? digits (power - count + 1) with
    | some found => found.toFloat == number.toFloat
    | none => false
  ([first, second].find? readsBack).map fun digits => carried digits count power

/-- The fewest digits that read back as a number that is not zero. Seventeen are always enough. -/
def shortest (number : FloatingPoint) : Digits :=
  let found := ((List.range 17).findSome? fun count => readingBack? number (count + 1)).getD ⟨0, 1, 0⟩
  withoutZeros found.count found

/-- The digits as characters. -/
def toList (found : Digits) : List Char :=
  let digits := Nat.toDigits 10 found.digits
  List.replicate (found.count - digits.length) '0' ++ digits

end Digits

/-- An exponent with its sign and at least two digits. -/
def shownExponent (power : Int) : String :=
  let digits := toString power.natAbs
  (if power < 0 then "-" else "+") ++ (if digits.length < 2 then "0" ++ digits else digits)

/-- Digits with a point between them: where the power of the first digit is from `least` on and below `limit`
in their place, otherwise behind the first digit and with an exponent. -/
def shownDigits (found : Digits) (least limit : Int) (keepsPoint : Bool) : String :=
  let digits := found.toList
  let text (parts : List Char) := String.ofList parts
  if least ≤ found.power ∧ found.power < limit then
    if found.power < 0 then
      "0." ++ text (List.replicate (-found.power - 1).toNat '0') ++ text digits
    else
      let front := found.power.toNat + 1
      if digits.length ≤ front then
        text (digits ++ List.replicate (front - digits.length) '0') ++ (if keepsPoint then ".0" else "")
      else text (digits.take front) ++ "." ++ text (digits.drop front)
  else
    let rest := text (digits.drop 1)
    text (digits.take 1) ++ (if rest = "" then "" else "." ++ rest) ++ "e" ++ shownExponent found.power

/-- A number with the fewest digits that read back; the point stands in its place from a ten-thousandth up to
sixteen digits, otherwise there is an exponent. -/
def shownReal (number : Float) (keepsPoint : Bool) : String :=
  match Exact.ofFloat number with
  | .notANumber => "nan"
  | .infinite isNegative => if isNegative then "-inf" else "inf"
  | .finite isNegative magnitude =>
    (if isNegative then "-" else "")
      ++ (if magnitude.significand = 0 then if keepsPoint then "0.0" else "0"
        else shownDigits (Digits.shortest magnitude) (-4) 16 keepsPoint)

end SelectionGen.Number
