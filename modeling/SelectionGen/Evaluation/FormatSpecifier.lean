import SelectionGen.Evaluation.Arithmetic

/-! How a value is to be written: where it stands among fill characters, its sign, its width, its digits. What
a specifier asks for may not fit the kind of value. -/
namespace SelectionGen.Evaluation

open Target

/-- What a specifier asks for. -/
structure FormatSpecifier where
  fill : Char := ' '
  alignment : Option Char := none
  sign : Option Char := none
  dropsMinus : Bool := false
  isAlternate : Bool := false
  width : Nat := 0
  grouping : Option Char := none
  precision : Option Nat := none
  kind : Option Char := none
deriving DecidableEq, Repr

namespace FormatSpecifier

/-- The characters that say where a value stands. -/
def isAlignment (c : Char) : Bool := c = '<' || c = '>' || c = '=' || c = '^'

def digitsOf (text : List Char) : Nat :=
  text.foldl (fun value c => 10 * value + (c.toNat - '0'.toNat)) 0

/-- Takes digits off the front of a text. -/
def takeDigits (text : List Char) : Evaluated (Option Nat × List Char) := do
  let digits := text.takeWhile Char.isDigit
  if 18 < digits.length then raise "ValueError" "Too many decimal digits in format string"
  return (if digits.isEmpty then none else some (digitsOf digits), text.dropWhile Char.isDigit)

/-- Takes one character off the front of a text, if it is the given one. -/
def takeOne (c : Char) (text : List Char) : Bool × List Char :=
  match text with
  | first :: rest => if first = c then (true, rest) else (false, text)
  | [] => (false, [])

/-- Reads a specifier for a value of the given type. -/
def read (text : String) (typeName : String) (isText : Bool) : Evaluated FormatSpecifier := do
  let (fill?, alignment, rest) := match text.toList with
    | fill :: c :: rest =>
      if isAlignment c then (some fill, some c, rest)
      else if isAlignment fill then (none, some fill, c :: rest)
      else (none, none, fill :: c :: rest)
    | [c] => if isAlignment c then (none, some c, []) else (none, none, [c])
    | [] => (none, none, [])
  let (sign, rest) := match rest with
    | c :: others => if c = '+' ∨ c = '-' ∨ c = ' ' then (some c, others) else (none, rest)
    | [] => (none, [])
  let (dropsMinus, rest) := takeOne 'z' rest
  let (isAlternate, rest) := takeOne '#' rest
  let (hasZero, rest) := if fill?.isSome then (false, rest) else takeOne '0' rest
  let (width, rest) ← takeDigits rest
  let fill := fill?.getD (if hasZero then '0' else ' ')
  let alignment := if hasZero ∧ alignment.isNone ∧ !isText then some '=' else alignment
  let (hasComma, rest) := takeOne ',' rest
  let (hasLine, rest) := takeOne '_' rest
  if hasComma && hasLine then raise "ValueError" "Cannot specify both ',' and '_'."
  if hasLine ∧ rest.head? = some ',' then raise "ValueError" "Cannot specify both ',' and '_'."
  let grouping := if hasComma then some ',' else if hasLine then some '_' else none
  let (hasPoint, rest) := takeOne '.' rest
  let (precision, rest) ← if hasPoint then takeDigits rest else pure (none, rest)
  if hasPoint && precision.isNone then raise "ValueError" "Format specifier missing precision"
  let found : FormatSpecifier :=
    { fill, alignment, sign, dropsMinus, isAlternate, width := width.getD 0, grouping, precision }
  match rest with
  | [] => return found
  | [kind] => return { found with kind := some kind }
  | _ =>
    raise "ValueError"
      ("Invalid format specifier '" ++ text ++ "' for object of type '" ++ typeName ++ "'")

/-- A text among fill characters up to a width; without an alignment of its own it stands where values of its
kind do. -/
def placed (specifier : FormatSpecifier) (defaultAlignment : Char) (sign text : List Char) : String :=
  let missing := specifier.width - (sign.length + text.length)
  let fill (count : Nat) := List.replicate count specifier.fill
  String.ofList <| match specifier.alignment.getD defaultAlignment with
    | '<' => sign ++ text ++ fill missing
    | '^' => fill (missing / 2) ++ sign ++ text ++ fill (missing - missing / 2)
    | '=' => sign ++ fill missing ++ text
    | _ => fill missing ++ sign ++ text

/-- Raises that a letter is not known for a type. -/
def refuseKind (kind : Char) (typeName : String) : Evaluated α :=
  raise "ValueError" ("Unknown format code '" ++ String.ofList [kind] ++ "' for object of type '" ++ typeName
    ++ "'")

/-- A text as a specifier asks for it. -/
def ofText (specifier : FormatSpecifier) (text : String) : Evaluated String := do
  let refused (message : String) : Evaluated String := raise "ValueError" message
  match specifier.kind with
  | some kind => if kind ≠ 's' then let _ ← (refuseKind kind "str" : Evaluated Unit)
  | none => pure ()
  match specifier.sign, specifier.grouping with
  | some ' ', _ => refused "Space not allowed in string format specifier"
  | some _, _ => refused "Sign not allowed in string format specifier"
  | none, some mark => refused ("Cannot specify '" ++ String.ofList [mark] ++ "' with 's'.")
  | none, none =>
    if specifier.dropsMinus then
      refused "Negative zero coercion (z) not allowed in string format specifier"
    else if specifier.isAlternate then
      refused "Alternate form (#) not allowed in string format specifier"
    else if specifier.alignment = some '=' then
      refused "'=' alignment not allowed in string format specifier"
    else
      let shown := match specifier.precision with
        | some count => text.toList.take count
        | none => text.toList
      return placed specifier '<' [] shown

/-- Digits in groups of a size, counted from the end, with marks between them. -/
def grouped (size : Nat) (mark : Char) (digits : List Char) : List Char :=
  let parts := digits.reverse.zipIdx.flatMap fun (c, place) =>
    if place ≠ 0 ∧ place % size = 0 then [mark, c] else [c]
  parts.reverse

/-- Digits with marks between groups and zeros in front up to a width. -/
def groupedUpTo : Nat → Nat → Char → Nat → List Char → List Char
  | 0, size, mark, _, digits => grouped size mark digits
  | count + 1, size, mark, width, digits =>
    let shown := grouped size mark digits
    if width ≤ shown.length then shown else groupedUpTo count size mark width ('0' :: digits)

/-- A number from its sign, what stands in front of its digits, its digits, and what stands behind them. -/
def assembled (specifier : FormatSpecifier) (isNegative : Bool) (front digits behind : List Char)
    (groupSize : Nat) : String :=
  let sign := if isNegative then ['-'] else match specifier.sign with
    | some '+' => ['+']
    | some ' ' => [' ']
    | _ => []
  match specifier.grouping with
  | none => placed specifier '>' (sign ++ front) (digits ++ behind)
  | some mark =>
    let isPadded := specifier.fill = '0' && specifier.alignment = some '='
    let room := specifier.width - (sign.length + front.length + behind.length)
    let shown := groupedUpTo (if isPadded then room else 0) groupSize mark room digits
    placed specifier '>' (sign ++ front) (shown ++ behind)

/-- A number without digits of its own: what is past all numbers, or no number at all. -/
def wordOf? (value : Float) : Option String :=
  if value.isNaN then some "nan" else if value.isInf then some "inf" else none

/-- The digits of a number with a fixed count behind the point. -/
def fixedDigits (value : Float) (count : Nat) : List Char × List Char :=
  let (above, below) := (signedQuotient? value).getD (0, 1)
  let whole := Number.roundedQuotient (above.natAbs * Nat.pow 10 count) below
  let digits := Nat.toDigits 10 whole
  let digits := List.replicate (count + 1 - digits.length) '0' ++ digits
  (digits.take (digits.length - count), digits.drop (digits.length - count))

/-- A number of digits of a number, rounded. -/
def roundedDigits (value : Float) (count : Nat) : Number.Digits :=
  let (above, below) := (signedQuotient? value).getD (0, 1)
  if above = 0 then ⟨0, count, 0⟩ else Number.Digits.rounded above.natAbs below count

/-- The digits of a number with one of them in front of the point and an exponent behind. -/
def exponentDigits (found : Number.Digits) (isAlternate : Bool) (letter : Char) : List Char × List Char :=
  let digits := found.toList
  let rest := digits.drop 1
  let point := if rest.isEmpty && !isAlternate then [] else ['.']
  (digits.take 1, point ++ rest ++ letter :: (Number.shownExponent found.power).toList)

/-- Digits without zeros at the end. -/
def trimmed (digits : List Char) : List Char := (digits.reverse.dropWhile fun c => c == '0').reverse

/-- The digits of a number with an exponent only where it is far from one. `addsZero` keeps a digit behind the
point. -/
def generalDigits (value : Float) (precision : Nat) (isAlternate addsZero : Bool) (letter : Char) :
    List Char × List Char :=
  let count := max precision 1
  let found := roundedDigits value count
  let limit : Int := if addsZero then (count : Int) - 1 else count
  if found.power < -4 ∨ limit ≤ found.power then
    let kept := if isAlternate then found else Number.Digits.withoutZeros count found
    exponentDigits kept isAlternate letter
  else
    let (front, behind) := fixedDigits value ((count : Int) - 1 - found.power).toNat
    let behind := if isAlternate then behind else trimmed behind
    let behind := if behind.isEmpty && addsZero then ['0'] else behind
    (front, if behind.isEmpty && !isAlternate then [] else '.' :: behind)

/-- The digits of a number with the fewest that read back. -/
def shortestDigits (value : Float) : List Char × List Char :=
  let text := (Number.shownReal value.abs true).toList
  (text.takeWhile Char.isDigit, text.dropWhile Char.isDigit)

/-- A number with a point as a specifier asks for it. -/
def ofReal (specifier : FormatSpecifier) (typeName : String) (value : Float) : Evaluated String := do
  let kind := specifier.kind.getD ' '
  let precision := specifier.precision.getD 6
  let shown := value.abs
  let fixed (count : Nat) (value : Float) (sign : List Char) : List Char × List Char :=
    let (front, behind) := fixedDigits value count
    (front, (if behind.isEmpty && !specifier.isAlternate then [] else '.' :: behind) ++ sign)
  let raised (digits : List Char × List Char) : List Char × List Char :=
    (digits.1.map Char.toUpper, digits.2.map Char.toUpper)
  let digits ← match wordOf? shown with
    | some word =>
      if !"eEfFgGn% ".toList.contains kind then refuseKind kind typeName
      else pure ((word.toList.map fun c => if kind.isUpper then c.toUpper else c),
        if kind = '%' then ['%'] else [])
    | none =>
      match kind with
      | 'f' | 'F' => pure (fixed precision shown [])
      | 'e' => pure (exponentDigits (roundedDigits shown (precision + 1)) specifier.isAlternate 'e')
      | 'E' =>
        pure (raised (exponentDigits (roundedDigits shown (precision + 1)) specifier.isAlternate 'e'))
      | 'g' | 'n' => pure (generalDigits shown precision specifier.isAlternate false 'e')
      | 'G' => pure (raised (generalDigits shown precision specifier.isAlternate false 'e'))
      | '%' => pure (fixed precision (shown * 100.0) ['%'])
      | ' ' =>
        match specifier.precision with
        | some count => pure (generalDigits shown count specifier.isAlternate true 'e')
        | none => pure (shortestDigits shown)
      | other => refuseKind other typeName
  let isZero := (digits.1 ++ digits.2).all fun c => !c.isDigit || c = '0'
  let isNegative := hasMinus value && !value.isNaN && !(specifier.dropsMinus && isZero)
  return assembled specifier isNegative [] digits.1 digits.2 3

/-- A character by its number. -/
def characterOf (value : Int) : Evaluated Char := do
  if value < 0 ∨ 0x110000 ≤ value then raiseOverflow "%c arg not in range(0x110000)"
  else if 0xD800 ≤ value ∧ value < 0xE000 then giveUp
  else return Char.ofNat value.toNat

/-- The digits of a whole number in a base. -/
def baseDigits (base : Nat) (value : Int) : List Char := Nat.toDigits base value.natAbs

/-- A whole number as a specifier asks for it. -/
def ofWhole (specifier : FormatSpecifier) (value : Int) : Evaluated String := do
  let kind := specifier.kind.getD 'd'
  let refused (message : String) : Evaluated Unit := raise "ValueError" message
  if "eEfFgG%".toList.contains kind then ofReal specifier "int" (← realOf value)
  else if !"bcdoxXn".toList.contains kind then refuseKind kind "int"
  else
    if specifier.precision.isSome then refused "Precision not allowed in integer format specifier"
    if specifier.dropsMinus then
      refused "Negative zero coercion (z) not allowed in integer format specifier"
    let front (text : String) : List Char := if specifier.isAlternate then text.toList else []
    let written (front digits : List Char) (size : Nat) : Evaluated String :=
      return assembled specifier (value < 0) front digits [] size
    match kind with
    | 'c' =>
      if specifier.sign.isSome then refused "Sign not allowed with integer format specifier 'c'"
      if specifier.isAlternate then
        refused "Alternate form (#) not allowed with integer format specifier 'c'"
      return placed specifier '<' [] [← characterOf value]
    | 'b' => written (front "0b") (baseDigits 2 value) 4
    | 'o' => written (front "0o") (baseDigits 8 value) 4
    | 'x' => written (front "0x") (baseDigits 16 value) 4
    | 'X' => written (front "0X") ((baseDigits 16 value).map Char.toUpper) 4
    | _ => written [] (baseDigits 10 value) 3

/-- Refuses marks between groups for letters that have none. -/
def checkGrouping (specifier : FormatSpecifier) : Evaluated Unit := do
  match specifier.grouping, specifier.kind with
  | some mark, some kind =>
    let allowed := if mark = ',' then "deEfFgG%" else "deEfFgG%boxX"
    if !allowed.toList.contains kind then
      raise "ValueError"
        ("Cannot specify '" ++ String.ofList [mark] ++ "' with '" ++ String.ofList [kind] ++ "'.")
  | _, _ => return

end FormatSpecifier

/-- A value as a specifier asks for it, for values of built-in types. -/
def formatCore (value shownAs : Value) (specifier : String) : Evaluated String := do
  match value with
  | .text text =>
    let found ← FormatSpecifier.read specifier "str" true
    FormatSpecifier.ofText found text
  | .real number =>
    let found ← FormatSpecifier.read specifier "float" false
    FormatSpecifier.checkGrouping found
    FormatSpecifier.ofReal found "float" number
  | .complex .. => giveUp
  | other =>
    match other.whole? with
    | some number =>
      let found ← FormatSpecifier.read specifier "int" false
      FormatSpecifier.checkGrouping found
      FormatSpecifier.ofWhole found number
    | none =>
      refuse ("unsupported format string passed to " ++ (← typeName shownAs) ++ ".__format__")

/-- A value as a specifier asks for it. -/
def format (value : Value) (specifier : String) : Evaluated String := do
  match ← definedMember? value "__format__" with
  | some member =>
    match ← callDefined member value [.text specifier] with
    | .text text => return text
    | other => refuse ("__format__ must return a str, not " ++ (← typeName other))
  | none =>
    if specifier = "" then textOf value else formatCore (← core value) value specifier

end SelectionGen.Evaluation
