import SelectionGen.Text.Whole

/-! Numbers with a point or an exponent, as texts spell them: blanks around, a sign in front, digits of any
script with single underscores between them, or a word for what is no finite number. -/
namespace SelectionGen.Number

/-- What a text spells: `mantissa * 10 ^ exponent` with a sign, something without end, or no number. -/
inductive Decimal
  | finite (isNegative : Bool) (mantissa : Nat) (exponent : Int)
  | infinite (isNegative : Bool)
  | notANumber
deriving DecidableEq, Repr

namespace Decimal

/-- The text without its underscores, each of which has to stand between two digits. -/
def withoutUnderscores? (before : Bool) : List Char → Option (List Char)
  | [] => some []
  | '_' :: c :: rest =>
    if before && c.isDigit then (withoutUnderscores? true rest).map (c :: ·) else none
  | c :: rest => if c = '_' then none else (withoutUnderscores? c.isDigit rest).map (c :: ·)

/-- The number that digits spell in base ten. -/
def digitsValue (digits : List Char) : Nat :=
  digits.foldl (fun value c => 10 * value + (c.toNat - '0'.toNat)) 0

/-- The exponent behind the letter for it; zero if nothing is there. -/
def exponent? : List Char → Option Int
  | [] => some 0
  | letter :: rest =>
    if letter = 'e' ∨ letter = 'E' then
      let (isNegative, digits) := match rest with
        | '-' :: digits => (true, digits)
        | '+' :: digits => (false, digits)
        | digits => (false, digits)
      if digits.isEmpty || !digits.all Char.isDigit then none
      else some (if isNegative then -(digitsValue digits : Int) else digitsValue digits)
    else none

/-- Reads what follows the sign. There has to be a digit in front of the point or behind it. -/
def unsigned? (isNegative : Bool) (text : List Char) : Option Decimal :=
  let word := String.ofList (text.map Char.toLower)
  if word = "inf" ∨ word = "infinity" then some (.infinite isNegative)
  else if word = "nan" then some .notANumber
  else
    let front := text.takeWhile Char.isDigit
    let rest := text.dropWhile Char.isDigit
    let (behind, rest) := match rest with
      | '.' :: rest => (rest.takeWhile Char.isDigit, rest.dropWhile Char.isDigit)
      | rest => ([], rest)
    if front.isEmpty && behind.isEmpty then none
    else (exponent? rest).map fun exponent =>
      .finite isNegative (digitsValue (front ++ behind)) (exponent - behind.length)

/-- The number that a text spells. -/
def ofText? (text : String) : Option Decimal := do
  let plain := Text.stripWith Text.isPlainBlank (Text.Whole.inBasicAlphabet text.toList)
  match ← withoutUnderscores? false plain with
  | '-' :: rest => unsigned? true rest
  | '+' :: rest => unsigned? false rest
  | rest => unsigned? false rest

end Decimal

/-! Floating-point numbers of 64 bits as far as they are needed here: which one is nearest to a decimal
number, and whether it is whole. All steps are exact. A number is a significand of at most 53 bits times
a power of two that is never below the least one. -/

/-- The whole number nearest to a quotient; of two that are equally near, the even one. -/
def roundedQuotient (numerator denominator : Nat) : Nat :=
  let whole := numerator / denominator
  let twice := 2 * (numerator % denominator)
  if twice < denominator then whole
  else if denominator < twice then whole + 1
  else whole + whole % 2

/-- A significand times a power of two. -/
structure FloatingPoint where
  significand : Nat
  exponent : Int
deriving DecidableEq, Repr

namespace FloatingPoint

/-- The bits of a significand. -/
def precision : Nat := 53

/-- The exponent of the numbers nearest to zero. -/
def leastExponent : Int := -1074

/-- The exponent from which on numbers are too large. -/
def exponentLimit : Nat := 1024

/-- A quotient divided by a power of two, as numerator and denominator. -/
def scaled (numerator denominator : Nat) (exponent : Int) : Nat × Nat :=
  if 0 ≤ exponent then (numerator, denominator * Nat.pow 2 exponent.toNat)
  else (numerator * Nat.pow 2 (-exponent).toNat, denominator)

/-- The exponent at which a quotient takes all bits of a significand, unless that is below the least. -/
def exponentOf (numerator denominator : Nat) : Int :=
  let low : Int := numerator.log2 - denominator.log2 - precision
  let (above, below) := scaled numerator denominator low
  max leastExponent (if above / below < Nat.pow 2 precision then low else low + 1)

/-- The number nearest to a quotient. -/
def nearest (numerator denominator : Nat) : FloatingPoint :=
  let exponent := exponentOf numerator denominator
  let (above, below) := scaled numerator denominator exponent
  ⟨roundedQuotient above below, exponent⟩

/-- The number nearest to `mantissa * 10 ^ exponent`, or none if it is too large. What has so many digits
in front or so many zeros behind the point that this alone decides is not computed. -/
def ofDecimal? (mantissa : Nat) (exponent : Int) : Option FloatingPoint :=
  let digits : Int := (Nat.toDigits 10 mantissa).length
  if mantissa = 0 ∨ digits + exponent < leastExponent then some ⟨0, 0⟩
  else if (exponentLimit : Int) < digits + exponent then none
  else
    let found := if 0 ≤ exponent then nearest (mantissa * Nat.pow 10 exponent.toNat) 1
      else nearest mantissa (Nat.pow 10 (-exponent).toNat)
    if (exponentLimit : Int) ≤ found.significand.log2 + found.exponent then none else some found

/-- The whole number that a number is. -/
def whole? (number : FloatingPoint) : Option Nat :=
  if 0 ≤ number.exponent then some (number.significand * Nat.pow 2 number.exponent.toNat)
  else
    let unit := Nat.pow 2 (-number.exponent).toNat
    if number.significand % unit = 0 then some (number.significand / unit) else none

end FloatingPoint

end SelectionGen.Number
