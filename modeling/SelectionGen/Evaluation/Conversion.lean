import SelectionGen.Evaluation.Arithmetic
import SelectionGen.Evaluation.Description
import SelectionGen.Number.FloatingPoint

/-! Numbers from other values: a number of another kind, a text that spells it, or a thing whose type says
which number it stands for. -/
namespace SelectionGen.Evaluation

open Target

/-- The whole number towards zero from a number of the machine. -/
def wholeOfReal (value : Float) : Evaluated Int := do
  match Number.truncated? value with
  | some whole => return whole
  | none =>
    if value.isNaN then raise "ValueError" "cannot convert float NaN to integer"
    else raiseOverflow "cannot convert float infinity to integer"

/-- The number that a type says one of its things stands for. -/
def definedWhole? (value : Value) : Evaluated (Option Int) := do
  match ← definedMember? value "__int__" with
  | some member =>
    match ← callDefined member value [] with
    | .whole found => return some found
    | .truth found => return some (if found then 1 else 0)
    | other => refuse ("__int__ returned non-int (type " ++ (← typeName other) ++ ")")
  | none =>
    if (← definedMember? value "__index__").isSome then return some (← indexOf value)
    else
      match ← definedMember? value "__trunc__" with
      | some member => return some (← indexOf (← callDefined member value []))
      | none => return none

/-- The whole number that a value stands for, if it stands for one. -/
def wholeBehind? (value : Value) : Evaluated (Option Int) := do
  match ← definedWhole? value with
  | some found => return some found
  | none =>
    match ← core value with
    | .real found => return some (← wholeOfReal found)
    | other => return other.whole?

/-- The number with a point that a value stands for, if it stands for one. -/
def realBehind? (value : Value) : Evaluated (Option Float) := do
  match ← definedMember? value "__float__" with
  | some member =>
    match ← callDefined member value [] with
    | .real found => return some found
    | other =>
      refuse ((← typeName value) ++ ".__float__ returned non-float (type " ++ (← typeName other) ++ ")")
  | none =>
    match ← core value with
    | .real found => return some found
    | other =>
      match other.whole? with
      | some found => return some (← realOf found)
      | none =>
        if (← definedMember? value "__index__").isSome then return some (← realOf (← indexOf value))
        else return none

/-- The number with a point that a value stands for. -/
def realBehind (value : Value) : Evaluated Float := do
  match ← realBehind? value with
  | some found => return found
  | none => refuse ("must be real number, not " ++ (← typeName value))

/-- What is said of a number with too many digits. -/
def tooManyDigits (count : Nat) : String :=
  "Exceeds the limit (" ++ toString Text.Whole.digitLimit ++ " digits) for integer string conversion: value has "
    ++ toString count ++ " digits; use sys.set_int_max_str_digits() to increase the limit"

/-- The base that the digits of a text are marked with. Without a mark there is nothing but zeros or no zero
in front. -/
def markedBase? (text : List Char) : Option Nat :=
  let unsigned := match Text.stripWith Text.isPlainBlank (Text.Whole.inBasicAlphabet text) with
    | '-' :: rest | '+' :: rest => rest
    | rest => rest
  match unsigned with
  | '0' :: rest =>
    match [2, 8, 16].find? fun base => (rest.head?.map (Text.Whole.marks base).contains).getD false with
    | some base => some base
    | none => if rest.all fun c => c = '0' || c = '_' then some 10 else none
  | _ => some 10

/-- The whole number that a text spells in a base; base zero leaves the base to the text. -/
def readWhole (base : Int) (text shown : String) : Evaluated Int := do
  if base ≠ 0 ∧ (base < 2 ∨ 36 < base) then
    raise "ValueError" "int() base must be >= 2 and <= 36, or 0"
  let fault : Evaluated Int :=
    raise "ValueError"
      ("invalid literal for int() with base " ++ toString base ++ ": " ++ shown)
  match if base = 0 then markedBase? text.toList else some base.toNat with
  | none => fault
  | some base =>
    match Text.Whole.tooManyDigits? base text.toList with
    | some count => raise "ValueError" (tooManyDigits count)
    | none =>
      match Text.Whole.ofText? base text with
      | some found => return found
      | none => fault

/-- The number with a point that a text spells. -/
def realOfText? (text : String) : Option Float :=
  (Number.Decimal.ofText? text).map fun
    | .finite isNegative mantissa exponent => Number.realOfDecimal isNegative mantissa exponent
    | .infinite isNegative => Number.infinity isNegative
    | .notANumber => 0.0 / 0.0

/-- The number with a point that a text spells. -/
def readReal (text shown : String) : Evaluated Float := do
  match realOfText? text with
  | some found => return found
  | none => raise "ValueError" ("could not convert string to float: " ++ shown)

/-- Where the imaginary part of a spelled number begins: at its last sign that is no sign of an exponent. -/
def imaginaryPlace (text : List Char) : Nat :=
  let found := (text.zip (' ' :: text)).zipIdx.filter fun ((c, before), _) =>
    (c = '+' || c = '-') && before != 'e' && before != 'E'
  (found.getLast?.map Prod.snd).getD 0

/-- The complex number that a text spells. -/
def complexOfText? (text : String) : Option (Float × Float) :=
  let plain := Text.strip text.toList
  let plain := if plain.head? = some '(' ∧ plain.getLast? = some ')' then
      Text.strip ((plain.drop 1).dropLast)
    else plain
  let hasBlank := plain.any Text.isBlank
  let read (part : List Char) : Option Float := realOfText? (String.ofList part)
  if plain.isEmpty || hasBlank then none
  else if plain.getLast? = some 'j' || plain.getLast? = some 'J' then
    let body := plain.dropLast
    let place := imaginaryPlace body
    let second := body.drop place
    let second? := match second with
      | [] | ['+'] => some 1.0
      | ['-'] => some (-1.0)
      | _ => read second
    let first? := if place = 0 then some 0.0 else read (body.take place)
    match first?, second? with
    | some first, some second => some (first, second)
    | _, _ => none
  else (read plain).map fun first => (first, 0.0)

end SelectionGen.Evaluation
