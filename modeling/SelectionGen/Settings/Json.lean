import SelectionGen.Sdl.Lexer

/-! Values of JSON text and how they are read. An object keeps all its members in order, also those whose
name comes again. Besides the numbers of the standard the three that are not finite can be written.
Nesting is limited, and so are the digits in front of a point; a text beyond a limit is malformed like any
other. -/
namespace SelectionGen.Settings

/-- A number. A whole number written without fraction and exponent is kept apart from all others. -/
inductive JsonNumber
  | integer (value : Int)
  | decimal (mantissa : Int) (exponent : Int)
  | notFinite
deriving DecidableEq, Repr

inductive Json
  | null
  | bool (value : Bool)
  | number (value : JsonNumber)
  | string (value : String)
  | array (items : List Json)
  | object (members : List (String × Json))

namespace Json

/-- A reader gives its result and the text behind it. -/
abbrev Parse (α : Type) := List Char → Option (α × List Char)

def skipBlanks (text : List Char) : List Char :=
  text.dropWhile fun c => c == ' ' || c == '\t' || c == '\n' || c == '\r'

/-- The text behind a word, if it begins with that word. -/
def dropWord? (word : String) (text : List Char) : Option (List Char) :=
  if word.toList.isPrefixOf text then some (text.drop word.length) else none

/-- An escape behind its backslash. Halves of a surrogate pair are accepted only together. -/
def escape : Parse Char
  | '"' :: rest => some ('"', rest)
  | '\\' :: rest => some ('\\', rest)
  | '/' :: rest => some ('/', rest)
  | 'b' :: rest => some ('\x08', rest)
  | 'f' :: rest => some ('\x0c', rest)
  | 'n' :: rest => some ('\n', rest)
  | 'r' :: rest => some ('\r', rest)
  | 't' :: rest => some ('\t', rest)
  | 'u' :: rest =>
    match Sdl.Lexeme.fixedEscape rest with
    | .ok (c, width) => some (c, rest.drop (width - 1))
    | .error _ => none
  | _ => none

/-- A string behind its opening quote, with a bound on its length. -/
def stringBody : Nat → Parse (List Char)
  | 0, _ => none
  | _ + 1, '"' :: rest => some ([], rest)
  | bound + 1, '\\' :: text => do
    let (c, rest) ← escape text
    let (value, rest) ← stringBody bound rest
    return (c :: value, rest)
  | bound + 1, c :: text => do
    if c.toNat < 0x20 then none
    else
      let (value, rest) ← stringBody bound text
      return (c :: value, rest)
  | _ + 1, [] => none

def stringLiteral : Parse String
  | '"' :: text => do
    let (value, rest) ← stringBody text.length text
    return (String.ofList value, rest)
  | _ => none

def digitsValue (digits : List Char) : Nat :=
  digits.foldl (fun value digit => value * 10 + (digit.toNat - '0'.toNat)) 0

/-- At least one digit. -/
def someDigits (text : List Char) : Option (List Char × List Char) :=
  match text.takeWhile Char.isDigit with
  | [] => none
  | digits => some (digits, text.drop digits.length)

/-- The most digits that can stand in front of a point. -/
def digitLimit : Nat := 4300

/-- A number without its sign: the digits of the integer part do not begin with a superfluous zero. -/
def unsignedNumber (sign : Int) : Parse JsonNumber := fun text => do
  let (whole, rest) ← someDigits text
  if whole.length > 1 ∧ whole.head? = some '0' ∨ digitLimit < whole.length then none
  else
    let (fraction, rest) ← match rest with
      | '.' :: more => someDigits more
      | _ => some ([], rest)
    let (exponent, hasExponent, rest) ← match rest with
      | 'e' :: '-' :: more | 'E' :: '-' :: more => do
        let (digits, rest) ← someDigits more
        pure (-(digitsValue digits : Int), true, rest)
      | 'e' :: '+' :: more | 'E' :: '+' :: more | 'e' :: more | 'E' :: more => do
        let (digits, rest) ← someDigits more
        pure ((digitsValue digits : Int), true, rest)
      | _ => pure (0, false, rest)
    if fraction.isEmpty && !hasExponent then
      return (.integer (sign * digitsValue whole), rest)
    else
      return (.decimal (sign * digitsValue (whole ++ fraction)) (exponent - fraction.length), rest)

def numberLiteral (text : List Char) : Option (JsonNumber × List Char) :=
  match text with
  | '-' :: rest =>
    match dropWord? "Infinity" rest with
    | some rest => some (.notFinite, rest)
    | none => unsignedNumber (-1) rest
  | _ => unsignedNumber 1 text

/-- Items with commas between them, behind the opening bracket, with a bound on their number. -/
def items (close : Char) (item : Parse α) : Nat → Parse (List α)
  | 0, _ => none
  | bound + 1, text => do
    let (first, rest) ← item (skipBlanks text)
    match skipBlanks rest with
    | ',' :: rest => do
      let (others, rest) ← items close item bound rest
      return (first :: others, rest)
    | c :: rest => if c = close then return ([first], rest) else none
    | [] => none

/-- Items up to the closing bracket, or none at all. -/
def bracketed (close : Char) (item : Parse α) (text : List Char) : Option (List α × List Char) :=
  match skipBlanks text with
  | c :: rest => if c = close then some ([], rest) else items close item text.length text
  | [] => none

def member (value : Parse Json) : Parse (String × Json) := fun text => do
  let (name, rest) ← stringLiteral text
  match skipBlanks rest with
  | ':' :: rest => do
    let (found, rest) ← value (skipBlanks rest)
    return ((name, found), rest)
  | _ => none

/-- What stands between brackets where no item may stand any more. -/
def noItem : Parse α := fun _ => none

/-- A value that holds no others. -/
def scalar (text : List Char) : Option (Json × List Char) :=
  match dropWord? "null" text, dropWord? "true" text, dropWord? "false" text,
    dropWord? "NaN" text, dropWord? "Infinity" text with
  | some rest, _, _, _, _ => some (.null, rest)
  | _, some rest, _, _, _ => some (.bool true, rest)
  | _, _, some rest, _, _ => some (.bool false, rest)
  | _, _, _, some rest, _ => some (.number .notFinite, rest)
  | _, _, _, _, some rest => some (.number .notFinite, rest)
  | _, _, _, _, _ => (numberLiteral text).map fun (found, rest) => (.number found, rest)

/-- A value, given how to read the values in it. -/
def valueOver (inner : Parse Json) : Parse Json
  | '"' :: text => (stringLiteral ('"' :: text)).map fun (found, rest) => (.string found, rest)
  | '[' :: text => (bracketed ']' inner text).map fun (found, rest) => (.array found, rest)
  | '{' :: text => (bracketed '}' (member inner) text).map fun (found, rest) => (.object found, rest)
  | text => scalar text

/-- A value with arrays and objects that hold something nested to at most the given depth. Those that hold
nothing do not count. -/
def value : Nat → Parse Json
  | 0 => valueOver noItem
  | depth + 1 => valueOver (value depth)

/-- The members with one more, in place of an earlier one of the same name. -/
def insertMember (members : List (String × α)) (name : String) (item : α) : List (String × α) :=
  if members.any fun (other, _) => other == name then
    members.map fun (other, old) => if other = name then (other, item) else (other, old)
  else members ++ [(name, item)]

/-- Members of which the last of each name counts, in the place of the first. -/
def lastOfEach (members : List (String × α)) : List (String × α) :=
  members.foldl (fun found (name, item) => insertMember found name item) []

/-- How deep arrays and objects that hold something may be nested. -/
def nestingLimit : Nat := 200

/-- The value that a whole text spells. -/
def ofString? (text : String) : Option Json := do
  let (found, rest) ← value nestingLimit (skipBlanks text.toList)
  if (skipBlanks rest).isEmpty then return found else none

end Json

end SelectionGen.Settings
