import SelectionGen.Sdl.Name

/-! Tokens of the schema language, what can be wrong with a text, and the words for it. -/
namespace SelectionGen.Sdl

/-- The punctuation of the language. -/
inductive Mark
  | bang
  | dollar
  | ampersand
  | parenOpen
  | parenClose
  | spread
  | colon
  | equals
  | atSign
  | bracketOpen
  | bracketClose
  | braceOpen
  | pipe
  | braceClose
deriving DecidableEq, Repr

def Mark.text : Mark → String
  | .bang => "!"
  | .dollar => "$"
  | .ampersand => "&"
  | .parenOpen => "("
  | .parenClose => ")"
  | .spread => "..."
  | .colon => ":"
  | .equals => "="
  | .atSign => "@"
  | .bracketOpen => "["
  | .bracketClose => "]"
  | .braceOpen => "\x7b"
  | .pipe => "|"
  | .braceClose => "\x7d"

/-- The mark that a single character makes; the spread takes three. -/
def Mark.ofChar? : Char → Option Mark
  | '!' => some .bang
  | '$' => some .dollar
  | '&' => some .ampersand
  | '(' => some .parenOpen
  | ')' => some .parenClose
  | ':' => some .colon
  | '=' => some .equals
  | '@' => some .atSign
  | '[' => some .bracketOpen
  | ']' => some .bracketClose
  | '{' => some .braceOpen
  | '|' => some .pipe
  | '}' => some .braceClose
  | _ => none

/-- What a token says. Numbers keep their spelling, strings hold their value. -/
inductive Lexeme
  | mark (mark : Mark)
  | name (name : Name)
  | int (spelling : String)
  | float (spelling : String)
  | string (value : String)
  | blockString (value : String)
  | endOfFile
deriving DecidableEq, Repr

/-- A lexeme and the offset of its first character. -/
structure Token where
  offset : Nat
  lexeme : Lexeme
deriving DecidableEq, Repr

namespace Lexeme

/-- How messages name a token: its kind, and in quotes its spelling or value. -/
def describe : Lexeme → String
  | mark m => "'" ++ m.text ++ "'"
  | name n => "Name '" ++ n.text ++ "'"
  | int spelling => "Int '" ++ spelling ++ "'"
  | float spelling => "Float '" ++ spelling ++ "'"
  | string value => "String '" ++ value ++ "'"
  | blockString value => "BlockString '" ++ value ++ "'"
  | endOfFile => "<EOF>"

/-- The spelling or value; marks and the end of the file have none. -/
def content? : Lexeme → Option String
  | name n => some n.text
  | int spelling | float spelling => some spelling
  | string value | blockString value => some value
  | mark _ | endOfFile => none

end Lexeme

/-- What a reader waits for where only one thing can follow. -/
inductive Expectation
  | mark (mark : Mark)
  | name
  | keyword (word : String)
  | endOfFile
deriving DecidableEq, Repr

def Expectation.describe : Expectation → String
  | mark m => "'" ++ m.text ++ "'"
  | name => "Name"
  | keyword word => "'" ++ word ++ "'"
  | endOfFile => "<EOF>"

/-- What makes a text not a document. -/
inductive SyntaxFault
  | unexpectedCharacter (found : Char)
  | singleQuote
  | twoDots
  | noDigitBeforeDot (digits : String)
  | digitExpected (found : Option Char)
  | digitAfterZero (found : Char)
  | unterminatedString
  | characterEscape (spelling : String)
  | unicodeEscape (spelling : String)
  | expected (wanted : Expectation) (found : Lexeme)
  | unexpected (found : Lexeme)
  | misplacedDescription
  | shorthandDescription
  | reservedEnumValue (found : Lexeme)
  | variableInConstant (name : Name)
  | nestedTooDeep
deriving DecidableEq, Repr

/-- A fault and the offset of the character it is reported at. -/
structure SyntaxError where
  fault : SyntaxFault
  offset : Nat
deriving DecidableEq, Repr

/-- The digits of a number in base sixteen, at least four of them. -/
def codePointText (value : Nat) : String :=
  let digits := (Nat.toDigits 16 value).map Char.toUpper
  "U+" ++ String.ofList (List.replicate (4 - digits.length) '0' ++ digits)

/-- How messages show a character: in quotes if it is plain, by its number otherwise. The end of the
text stands for no character. -/
def describeCharacter : Option Char → String
  | none => "<EOF>"
  | some '"' => "'\"'"
  | some c =>
    if ' ' ≤ c ∧ c ≤ '~' then "'" ++ c.toString ++ "'" else codePointText c.toNat

def SyntaxFault.message : SyntaxFault → String
  | unexpectedCharacter found => "Unexpected character: " ++ describeCharacter (some found) ++ "."
  | singleQuote =>
    "Unexpected single quote character ('), did you mean to use a double quote (\")?"
  | twoDots => "Unexpected '..', did you mean '...'?"
  | noDigitBeforeDot digits =>
    "Invalid number, expected digit before '.', did you mean '0." ++ digits ++ "'?"
  | digitExpected found =>
    "Invalid number, expected digit but got: " ++ describeCharacter found ++ "."
  | digitAfterZero found =>
    "Invalid number, unexpected digit after 0: " ++ describeCharacter (some found) ++ "."
  | unterminatedString => "Unterminated string."
  | characterEscape spelling => "Invalid character escape sequence: '" ++ spelling ++ "'."
  | unicodeEscape spelling => "Invalid Unicode escape sequence: '" ++ spelling ++ "'."
  | expected wanted found => "Expected " ++ wanted.describe ++ ", found " ++ found.describe ++ "."
  | unexpected found => "Unexpected " ++ found.describe ++ "."
  | misplacedDescription =>
    "Unexpected description, only GraphQL definitions support descriptions."
  | shorthandDescription =>
    "Unexpected description, descriptions are not supported on shorthand queries."
  | reservedEnumValue found =>
    found.describe ++ " is reserved and cannot be used for an enum value."
  | variableInConstant name => "Unexpected variable '$" ++ name.text ++ "' in constant value."
  | nestedTooDeep => "Document is nested too deeply. Parsing aborted."

def SyntaxError.message (error : SyntaxError) : String :=
  "Syntax Error: " ++ error.fault.message

end SelectionGen.Sdl
