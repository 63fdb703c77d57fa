import SelectionGen.Evaluation.Conversion
import SelectionGen.Evaluation.Elements
import SelectionGen.Evaluation.Template

/-! Texts with percent signs that values are put behind: one value after the other from a tuple, or those that
a mapping holds. A value alone stands for a tuple with nothing else in it. Each sign may be followed by
flags, a width and a precision, and ends with the letter of a conversion. -/
namespace SelectionGen.Evaluation.Interpolation

open Target

/-- What is asked for behind a percent sign. -/
structure Request where
  isLeft : Bool := false
  hasPlus : Bool := false
  hasBlank : Bool := false
  isAlternate : Bool := false
  hasZero : Bool := false
  width : Nat := 0
  precision : Option Nat := none

/-- Values that are still to be used: those of a tuple, a value alone that is used or not, or one from a
mapping, which can be used again. -/
inductive Supply
  | values (values : List Value)
  | single (value : Value) (isUsed : Bool)

/-- The next value. -/
def next (supply : Supply) : Evaluated (Value × Supply) := do
  match supply with
  | .values (value :: rest) => return (value, .values rest)
  | .single value false => return (value, .single value true)
  | _ => refuse "not enough arguments for format string"

/-- Whether all values have been used. -/
def Supply.isUsedUp : Supply → Bool
  | .values left => left.isEmpty
  | .single _ isUsed => isUsed

/-- Whether a value has something under keys, in the widest sense. -/
def hasKeys (value : Value) : Evaluated Bool := do
  match value with
  | .tuple _ | .text _ => return false
  | .range .. | .bytes _ => return true
  | _ =>
    if (← definedMember? value "__getitem__").isSome then return true
    else if ← isMapping value then return true
    else
      match ← cellOf? (← core value) with
      | some (.list _) | some (.byteArray _) | some (.mapping _) => return true
      | _ => return false

/-- The text up to the bracket that matches, with `depth` brackets open. -/
def keyOf : Nat → List Char → List Char → Evaluated (List Char × List Char)
  | _, _, [] => raise "ValueError" "incomplete format key"
  | depth, taken, c :: rest =>
    if c = '(' then keyOf (depth + 1) (c :: taken) rest
    else if c = ')' then
      if depth ≤ 1 then return (taken.reverse, rest) else keyOf (depth - 1) (c :: taken) rest
    else keyOf depth (c :: taken) rest

/-- Takes flags off the front of a text. -/
def flagsOf (request : Request) : List Char → Request × List Char
  | [] => (request, [])
  | c :: rest =>
    match c with
    | '-' => flagsOf { request with isLeft := true } rest
    | '+' => flagsOf { request with hasPlus := true } rest
    | ' ' => flagsOf { request with hasBlank := true } rest
    | '#' => flagsOf { request with isAlternate := true } rest
    | '0' => flagsOf { request with hasZero := true } rest
    | _ => (request, c :: rest)

/-- A number that stands in a text, or is taken from the values. -/
def amountOf (supply : Supply) (text : List Char) (tooBig : String) :
    Evaluated (Option Int × Supply × List Char) := do
  match text with
  | '*' :: rest =>
    let (value, supply) ← next supply
    match (← core value).whole? with
    | some number => return (some number, supply, rest)
    | none => refuse "* wants int"
  | _ =>
    let digits := text.takeWhile Char.isDigit
    if 18 < digits.length then raise "ValueError" tooBig
    let found := if digits.isEmpty then none else some (FormatSpecifier.digitsOf digits : Int)
    return (found, supply, text.drop digits.length)

/-- A text among blanks up to a width. -/
def padded (request : Request) (text : String) : String :=
  let missing := List.replicate (request.width - text.length) ' '
  if request.isLeft then text ++ String.ofList missing else String.ofList missing ++ text

/-- A number among fill characters up to a width, behind its sign and what marks its base. -/
def placedNumber (request : Request) (isNegative : Bool) (mark digits : List Char) : String :=
  let sign := if isNegative then ['-'] else if request.hasPlus then ['+']
    else if request.hasBlank then [' '] else []
  let missing := request.width - (sign.length + mark.length + digits.length)
  let fill := List.replicate missing (if request.hasZero then '0' else ' ')
  String.ofList <|
    if request.isLeft then sign ++ mark ++ digits ++ List.replicate missing ' '
    else if request.hasZero then sign ++ mark ++ fill ++ digits
    else fill ++ sign ++ mark ++ digits

/-- A whole number in the base that a letter asks for. -/
def wholeText (request : Request) (letter : Char) (value : Int) : String :=
  let (mark, digits) : List Char × List Char := match letter with
    | 'o' => (['0', 'o'], FormatSpecifier.baseDigits 8 value)
    | 'x' => (['0', 'x'], FormatSpecifier.baseDigits 16 value)
    | 'X' => (['0', 'X'], (FormatSpecifier.baseDigits 16 value).map Char.toUpper)
    | _ => ([], FormatSpecifier.baseDigits 10 value)
  let digits := List.replicate (request.precision.getD 0 - digits.length) '0' ++ digits
  placedNumber request (value < 0) (if request.isAlternate then mark else []) digits

/-- A number with a point as a letter asks for it. -/
def realText (request : Request) (letter : Char) (value : Float) : Evaluated String := do
  let specifier : FormatSpecifier :=
    { isAlternate := request.isAlternate, precision := some (request.precision.getD 6)
      kind := some letter }
  let shown ← FormatSpecifier.ofReal specifier "float" value.abs
  return placedNumber request (hasMinus value && !value.isNaN) [] shown.toList

/-- The whole number for a letter, if the value stands for one. -/
def wholeFor? (letter : Char) (value : Value) : Evaluated (Option Int) := do
  if letter = 'o' || letter = 'x' || letter = 'X' then
    if ← isPlace value then return some (← indexOf value) else return none
  else wholeBehind? value

/-- A value as a letter asks for it, which stands at a place of the template. -/
def converted (request : Request) (letter : Char) (place : Nat) (value : Value) : Evaluated String := do
  let cut (text : String) : String :=
    match request.precision with
    | some count => String.ofList (text.toList.take count)
    | none => text
  match letter with
  | 's' => return padded request (cut (← textOf value))
  | 'r' => return padded request (cut (← describe value))
  | 'a' => return padded request (cut (Template.escaped (← describe value)))
  | 'd' | 'i' | 'u' | 'o' | 'x' | 'X' =>
    match ← wholeFor? letter value with
    | some number => return wholeText request letter number
    | none =>
      let wanted := if letter = 'o' || letter = 'x' || letter = 'X' then "an integer" else "a real number"
      refuse ("%" ++ String.ofList [letter] ++ " format: " ++ wanted ++ " is required, not "
        ++ (← typeName value))
  | 'e' | 'E' | 'f' | 'F' | 'g' | 'G' => realText request letter (← realBehind value)
  | 'c' =>
    match ← core value with
    | .text text =>
      if text.length = 1 then return padded request text else refuse "%c requires int or char"
    | other =>
      match other.whole? with
      | some number =>
        return padded request (String.ofList [← FormatSpecifier.characterOf number])
      | none => refuse "%c requires int or char"
  | other =>
    raise "ValueError"
      ("unsupported format character '" ++ String.ofList [other] ++ "' (0x"
        ++ String.ofList (Nat.toDigits 16 other.toNat) ++ ") at index " ++ toString place)

/-- Reads what follows a percent sign up to the letter of the conversion, which is left in front. -/
def requestOf (supply : Supply) (text : List Char) : Evaluated (Request × Supply × List Char) := do
  let (request, rest) := flagsOf {} text
  let (width, supply, rest) ← amountOf supply rest "width too big"
  let width := width.getD 0
  let request := { request with
    width := width.natAbs, isLeft := request.isLeft || width < 0 }
  let (request, supply, rest) ← match rest with
    | '.' :: rest => do
      let (precision, supply, rest) ← amountOf supply rest "precision too big"
      pure ({ request with precision := some (precision.getD 0).toNat }, supply, rest)
    | _ => pure (request, supply, rest)
  match rest with
  | c :: others =>
    return (request, supply, if c = 'h' ∨ c = 'l' ∨ c = 'L' then others else rest)
  | [] => return (request, supply, [])

/-- Puts values behind the percent signs of a text of the given length, at most so many times. -/
def fill (mapping : Option Value) (size : Nat) :
    Nat → Supply → List Char → List Char → Evaluated (List Char × Supply)
  | 0, _, _, _ => giveUp
  | _, supply, taken, [] => return (taken.reverse, supply)
  | count + 1, supply, taken, c :: rest => do
    if c ≠ '%' then fill mapping size count supply (c :: taken) rest
    else
      match rest with
      | '%' :: rest => fill mapping size count supply (c :: taken) rest
      | _ =>
        let (supply, rest) ← match rest with
          | '(' :: rest => do
            match mapping with
            | none => refuse "format requires a mapping"
            | some mapping =>
              let (key, rest) ← keyOf 1 [] rest
              let value ← elementOf mapping (.text (String.ofList key))
              pure (.single value false, rest)
          | _ => pure (supply, rest)
        let (request, supply, rest) ← requestOf supply rest
        match rest with
        | [] => raise "ValueError" "incomplete format"
        | letter :: rest =>
          let (value, supply) ← next supply
          let shown ← converted request letter (size - rest.length - 1) value
          fill mapping size count supply (shown.toList.reverse ++ taken) rest

/-- A text with values put behind its percent signs. -/
def filled (template : String) (values : Value) : Evaluated Value := do
  let supply := match values with
    | .tuple elements => Supply.values elements
    | other => .single other false
  let mapping := if ← hasKeys values then some values else none
  let text := template.toList
  let (found, supply) ← fill mapping text.length (text.length + 1) supply [] text
  if mapping.isNone && !supply.isUsedUp then
    refuse "not all arguments converted during string formatting"
  return .text (String.ofList found)

end SelectionGen.Evaluation.Interpolation
