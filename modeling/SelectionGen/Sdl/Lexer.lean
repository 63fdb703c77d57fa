import SelectionGen.Sdl.Token
import SelectionGen.Text.Split

/-! Cutting a text into tokens. The result is a stream: the tokens up to the first fault, and what stands
behind them, the end of the file or that fault. A reader therefore meets a fault of spelling only when
it gets there, after any fault of grammar that comes earlier. -/
namespace SelectionGen.Sdl

/-! The value of a block string. The indentation that all its lines share is layout, not content, and so
are blank lines before the first and after the last line that has text. The first line starts right
after the quotes, so it neither counts towards the shared indentation nor loses any. -/

namespace BlockString

def isIndentation (c : Char) : Bool := c == ' ' || c == '\t'

def isBlank (line : List Char) : Bool := line.all isIndentation

/-- The indentation shared by the lines that have text; `none` when there is no such line. -/
def commonIndentation : List (List Char) → Option Nat
  | [] => none
  | line :: rest =>
    let below := commonIndentation rest
    if isBlank line then below
    else
      let own := (line.takeWhile isIndentation).length
      some (match below with
        | some other => min own other
        | none => own)

/-- The lines without the blank ones at either end. -/
def trimBlank (lines : List (List Char)) : List (List Char) :=
  ((lines.dropWhile isBlank).reverse.dropWhile isBlank).reverse

/-- The lines without the indentation they share. If they share none they are blank, and dropping
everything from them changes nothing that is kept. -/
def unindent (lines : List (List Char)) : List (List Char) :=
  match commonIndentation lines with
  | some width => lines.map (·.drop width)
  | none => lines.map fun _ => []

/-- The lines of the value. -/
def dedent : List (List Char) → List (List Char)
  | [] => []
  | first :: rest => trimBlank (first :: unindent rest)

/-- The value of a block string whose text between the quotes is `raw`, its escaped quotes already
replaced. -/
def value (raw : List Char) : String :=
  String.ofList (['\n'].intercalate (dedent (Text.lines raw)))

end BlockString

/-- The tokens of a text in order, and what follows the last of them. -/
structure TokenStream where
  tokens : List Token
  ending : Except SyntaxError Token

/-- Characters between tokens that mean nothing: blanks, line ends, commas and the byte order mark. -/
def isIgnored (c : Char) : Bool :=
  c == ' ' || c == '\t' || c == ',' || c == '\n' || c == '\r' || c == '\ufeff'

/-- A comment runs to the end of its line. -/
def commentWidth (text : List Char) : Nat :=
  (text.takeWhile fun c => c != '\n' && c != '\r').length

namespace Lexeme

/-- Reading a token gives a result, or a fault and its distance from the start of the token. What is
read comes with the number of characters it takes behind the first one. -/
abbrev Reading := Except (SyntaxFault × Nat)

def digitCount (text : List Char) : Nat := (text.takeWhile Char.isDigit).length

/-- The width of at least one digit, counted from a token start that lies `before` characters back. -/
def readDigits (text : List Char) (before : Nat) : Reading Nat :=
  match digitCount text with
  | 0 => .error (.digitExpected text.head?, before)
  | count => .ok count

/-- The width of sign and integer part: a zero alone, or digits that do not begin with one. -/
def integerWidth (text : List Char) : Reading Nat := do
  let sign := if text.head? = some '-' then 1 else 0
  match text.drop sign with
  | '0' :: next :: _ => if next.isDigit then .error (.digitAfterZero next, sign + 1) else .ok (sign + 1)
  | '0' :: [] => .ok (sign + 1)
  | digits => return sign + (← readDigits digits sign)

/-- The width of a fraction, if one starts here. -/
def fractionWidth (text : List Char) (before : Nat) : Reading Nat :=
  match text with
  | '.' :: digits => do return 1 + (← readDigits digits (before + 1))
  | _ => .ok 0

/-- The width of an exponent, if one starts here. -/
def exponentWidth (text : List Char) (before : Nat) : Reading Nat :=
  match text with
  | [] => .ok 0
  | c :: rest => do
    if c == 'e' || c == 'E' then
      let sign := if rest.head? = some '+' ∨ rest.head? = some '-' then 1 else 0
      return 1 + sign + (← readDigits (rest.drop sign) (before + 1 + sign))
    else return 0

/-- A number ends where neither a dot nor a name could go on. -/
def number (text : List Char) : Reading (Lexeme × Nat) := do
  let whole ← integerWidth text
  let fraction ← fractionWidth (text.drop whole) whole
  let exponent ← exponentWidth (text.drop (whole + fraction)) (whole + fraction)
  let width := whole + fraction + exponent
  match (text.drop width).head? with
  | some next => if next == '.' || isNameStart next then throw (.digitExpected (some next), width)
  | none => pure ()
  let spelling := String.ofList (text.take width)
  return (if fraction + exponent = 0 then .int spelling else .float spelling, width - 1)

def hexValue? (c : Char) : Option Nat :=
  if c.isDigit then some (c.toNat - '0'.toNat)
  else if 'a' ≤ c ∧ c ≤ 'f' then some (c.toNat - 'a'.toNat + 10)
  else if 'A' ≤ c ∧ c ≤ 'F' then some (c.toNat - 'A'.toNat + 10)
  else none

/-- The number spelled by exactly four digits of base sixteen. -/
def fourHexDigits? : List Char → Option Nat
  | [a, b, c, d] => do
    return (((← hexValue? a) * 16 + (← hexValue? b)) * 16 + (← hexValue? c)) * 16 + (← hexValue? d)
  | _ => none

/-- A Unicode scalar value is a code point that is no surrogate. -/
def scalar? (value : Nat) : Option Char :=
  if valid : value.isValidChar then some (Char.ofNatAux value valid) else none

/-- An escape `\u{…}` after its brace. At most nine characters are looked at. -/
def bracedEscape : Nat → List Char → Nat → List Char → Except SyntaxFault (Char × Nat)
  | _ + 1, '}' :: _, value, taken =>
    match scalar? value with
    | some c =>
      if taken.isEmpty then .error (.unicodeEscape (spelled (taken ++ ['}'])))
      else .ok (c, taken.length + 3)
    | none => .error (.unicodeEscape (spelled (taken ++ ['}'])))
  | budget + 1, c :: rest, value, taken =>
    match hexValue? c with
    | some digit => bracedEscape budget rest (value * 16 + digit) (taken ++ [c])
    | none => .error (.unicodeEscape (spelled (taken ++ [c])))
  | _, _, _, taken => .error (.unicodeEscape (spelled taken))
where
  spelled (taken : List Char) : String := String.ofList ('\\' :: 'u' :: '{' :: taken)

/-- Two halves of a surrogate pair make one character. -/
def pairedSurrogates? (high low : Nat) : Option Char :=
  if 0xD800 ≤ high ∧ high ≤ 0xDBFF ∧ 0xDC00 ≤ low ∧ low ≤ 0xDFFF then
    scalar? (0x10000 + (high - 0xD800) * 0x400 + (low - 0xDC00))
  else none

/-- An escape `\uXXXX` after its `u`, possibly with a second one that completes a surrogate pair. -/
def fixedEscape (text : List Char) : Except SyntaxFault (Char × Nat) :=
  let fault := SyntaxFault.unicodeEscape (String.ofList ('\\' :: 'u' :: text.take 4))
  match fourHexDigits? (text.take 4) with
  | none => .error fault
  | some value =>
    match scalar? value, text.drop 4 with
    | some c, _ => .ok (c, 5)
    | none, '\\' :: 'u' :: second =>
      match (fourHexDigits? (second.take 4)).bind (pairedSurrogates? value) with
      | some c => .ok (c, 11)
      | none => .error fault
    | none, _ => .error fault

/-- An escape after its backslash: the character it stands for and its width there. -/
def escape : List Char → Except SyntaxFault (Char × Nat)
  | 'u' :: '{' :: rest => bracedEscape 9 rest 0 []
  | 'u' :: rest => fixedEscape rest
  | '"' :: _ => .ok ('"', 1)
  | '\\' :: _ => .ok ('\\', 1)
  | '/' :: _ => .ok ('/', 1)
  | 'b' :: _ => .ok ('\x08', 1)
  | 'f' :: _ => .ok ('\x0c', 1)
  | 'n' :: _ => .ok ('\n', 1)
  | 'r' :: _ => .ok ('\r', 1)
  | 't' :: _ => .ok ('\t', 1)
  | rest => .error (.characterEscape (String.ofList ('\\' :: rest.take 1)))

/-- The value of a string after its opening quote, where `before` characters of the token stand before
the text. A string does not go past the end of its line. -/
def stringBody (text : List Char) (before : Nat) : Reading (List Char × Nat) :=
  match text with
  | [] => .error (.unterminatedString, before)
  | '"' :: _ => .ok ([], before)
  | '\\' :: rest =>
    match escape rest with
    | .error fault => .error (fault, before)
    | .ok (c, width) => do
      let (value, total) ← stringBody (rest.drop width) (before + 1 + width)
      return (c :: value, total)
  | c :: rest =>
    if c == '\n' || c == '\r' then .error (.unterminatedString, before)
    else do
      let (value, total) ← stringBody rest (before + 1)
      return (c :: value, total)
termination_by text.length

/-- The raw text of a block string after its opening quotes. Three quotes end it unless a backslash
stands before them, and no other escape exists. -/
def blockBody : List Char → Nat → Reading (List Char × Nat)
  | '"' :: '"' :: '"' :: _, before => .ok ([], before + 2)
  | '\\' :: '"' :: '"' :: '"' :: rest, before => do
    let (raw, total) ← blockBody rest (before + 4)
    return ('"' :: '"' :: '"' :: raw, total)
  | c :: rest, before => do
    let (raw, total) ← blockBody rest (before + 1)
    return (c :: raw, total)
  | [], before => .error (.unterminatedString, before)

/-- The token that starts with `c`, which is no ignored character and starts no comment. -/
def read (c : Char) (rest : List Char) : Reading (Lexeme × Nat) :=
  if start : isNameStart c = true then
    .ok (.name (Name.ofChars c rest start), (rest.takeWhile isNameContinue).length)
  else if c.isDigit || c == '-' then number (c :: rest)
  else
    match c, rest with
    | '"', '"' :: '"' :: text => do
      let (raw, total) ← blockBody text 3
      return (.blockString (BlockString.value raw), total)
    | '"', text => do
      let (value, total) ← stringBody text 1
      return (.string (String.ofList value), total)
    | '.', '.' :: '.' :: _ => .ok (.mark .spread, 2)
    | '.', '.' :: _ => .error (.twoDots, 0)
    | '.', next :: more =>
      if next.isDigit then
        .error (.noDigitBeforeDot (String.ofList ((next :: more).takeWhile Char.isDigit)), 0)
      else .error (.unexpectedCharacter '.', 0)
    | '\'', _ => .error (.singleQuote, 0)
    | c, _ =>
      match Mark.ofChar? c with
      | some found => .ok (.mark found, 0)
      | none => .error (.unexpectedCharacter c, 0)

end Lexeme

namespace TokenStream

/-- The stream of a text whose first character has the given offset. -/
def scan (text : List Char) (offset : Nat) : TokenStream :=
  match text with
  | [] => ⟨[], .ok ⟨offset, .endOfFile⟩⟩
  | c :: rest =>
    if isIgnored c then scan rest (offset + 1)
    else if c = '#' then
      scan (rest.drop (commentWidth rest)) (offset + 1 + commentWidth rest)
    else
      match Lexeme.read c rest with
      | .error (fault, distance) => ⟨[], .error ⟨fault, offset + distance⟩⟩
      | .ok (lexeme, width) =>
        let behind := scan (rest.drop width) (offset + 1 + width)
        { behind with tokens := ⟨offset, lexeme⟩ :: behind.tokens }
termination_by text.length

def ofString (text : String) : TokenStream := scan text.toList 0

/-- The token that a reader looks at now. -/
def front (stream : TokenStream) : Except SyntaxError Token :=
  match stream.tokens with
  | token :: _ => .ok token
  | [] => stream.ending

/-- The stream behind its first token. The end of the file stays in place. -/
def behind (stream : TokenStream) : TokenStream :=
  { stream with tokens := stream.tokens.tail }

end TokenStream

end SelectionGen.Sdl
