import SelectionGen.Number.FloatingPoint
import SelectionGen.Target.Formatted
import SelectionGen.Text.Identifier
import SelectionGen.Text.Split

/-! Tokens of the target language. Line ends and changes of indentation are tokens, except between
brackets, where a line goes on. Lines that hold nothing but blanks and a comment leave no trace. -/
namespace SelectionGen.Target

namespace Token

/-- The marks of the language, longer ones first. -/
def marks : List String :=
  ["**=", "//=", ">>=", "<<=", "...", "**", "//", ">>", "<<", "<=", ">=", "==", "!=", "->", "+=",
    "-=", "*=", "/=", "%=", "&=", "|=", "^=", "@=", ":=", "+", "-", "*", "/", "%", "@", "&", "|",
    "^", "~", "<", ">", "(", ")", "[", "]", "\x7b", "\x7d", ",", ":", ";", ".", "="]

def openingMarks : List String := ["(", "[", "\x7b"]

def closingMarks : List String := [")", "]", "\x7d"]

/-- The width of digits with single underscores between them; zero if none start here. -/
def digitRun (isDigit : Char → Bool) : List Char → Nat
  | '_' :: c :: rest => if isDigit c then digitRun isDigit rest + 2 else 0
  | c :: rest => if isDigit c then digitRun isDigit rest + 1 else 0
  | [] => 0

/-- Digits that do not begin with an underscore. -/
def digits (isDigit : Char → Bool) (text : List Char) : Nat :=
  if text.head? = some '_' then 0 else digitRun isDigit text

def isHexDigit (c : Char) : Bool := (Sdl.Lexeme.hexValue? c).isSome

/-- The width of an exponent, zero if none starts here. -/
def exponentWidth : List Char → Nat
  | c :: rest =>
    if c == 'e' || c == 'E' then
      let sign := if rest.head? = some '+' ∨ rest.head? = some '-' then 1 else 0
      match digits Char.isDigit (rest.drop sign) with
      | 0 => 0
      | width => 1 + sign + width
    else 0
  | [] => 0

/-- How many digits a whole number in base ten can have. -/
def wholeDigitLimit : Nat := 4300

/-- The whole number that digits of a base spell. -/
def wholeValue (base : Nat) (digits : List Char) : Nat :=
  digits.foldl (fun value c => ((Sdl.Lexeme.hexValue? c).map (base * value + ·)).getD value) 0

/-- A number in base ten that has a point or an exponent. -/
def realValue (isImaginary : Bool) (digits : List Char) : Constant :=
  let plain := digits.filter fun c => c != '_'
  match Number.Decimal.unsigned? false plain, isImaginary with
  | some (.finite _ mantissa exponent), true => .imaginary mantissa exponent
  | some (.finite _ mantissa exponent), false => .real mantissa exponent
  | _, _ => .real 0 0

/-- A number in base ten and its width. Without fraction or exponent it has no superfluous zero in front,
and not too many digits. -/
def decimal? (text : List Char) : Option (Constant × Nat) :=
  let whole := digits Char.isDigit text
  let fraction := match text.drop whole with
    | '.' :: rest => digits Char.isDigit rest + 1
    | _ => 0
  let exponent := exponentWidth (text.drop (whole + fraction))
  let width := whole + fraction + exponent
  let isImaginary := match text.drop width with
    | c :: _ => c == 'j' || c == 'J'
    | [] => false
  let wholeText := text.take whole
  let hasSuperfluousZero := text.head? = some '0' ∧ wholeText.any fun c => c != '0' && c != '_'
  let isTooLong := wholeDigitLimit < (wholeText.filter Char.isDigit).length
  if whole = 0 ∧ fraction ≤ 1 then none
  else if isImaginary then some (realValue true (text.take width), width + 1)
  else if fraction + exponent = 0 then
    if hasSuperfluousZero ∨ isTooLong then none
    else some (.whole (wholeValue 10 wholeText), width)
  else some (realValue false (text.take width), width)

/-- The words that may follow a number directly. Any other name may not. -/
def wordsBehindNumbers : List String := ["and", "else", "for", "if", "in", "is", "not", "or"]

def canFollowNumber (text : List Char) : Bool :=
  !(text.head?.map Text.isIdentifierContinue).getD false
    || wordsBehindNumbers.any fun word => word.toList.isPrefixOf text

/-- A number and its width. -/
def readNumber (text : List Char) : Option (Constant × Nat) := do
  let (value, width) ← match text with
    | '0' :: letter :: rest =>
      let run (base : Nat) (isDigit : Char → Bool) : Option (Constant × Nat) :=
        match digitRun isDigit rest with
        | 0 => none
        | width => some (.whole (wholeValue base (rest.take width)), width + 2)
      if letter == 'x' || letter == 'X' then run 16 isHexDigit
      else if letter == 'o' || letter == 'O' then run 8 Literal.isOctalDigit
      else if letter == 'b' || letter == 'B' then run 2 fun c => c == '0' || c == '1'
      else decimal? text
    | _ => decimal? text
  if canFollowNumber (text.drop width) then return (value, width) else none

/-- What a literal of a form stands for. -/
def literalValue (form : LiteralForm) (characters : List Char) : Constant :=
  if form.isBytes then .bytes (characters.map fun c => c.toNat.toUInt8)
  else .text (String.ofList characters)

/-- A string literal that starts at its opening quotes, with the expressions in it, and its width. -/
def readLiteral (embed : Formatted.Embed) (form : LiteralForm) (line : Nat) (text : List Char) :
    Option (List Token × Nat) := do
  let (content, width) ← Literal.content? text
  if form.isFormatted then return (← Formatted.tokens? embed form.isRaw line content, width)
  else
    let characters ← Literal.value? form content
    return ([⟨.literal (literalValue form characters), line⟩], width)

/-- A name, or the letters in front of a string literal together with that literal. -/
def readWord (embed : Formatted.Embed) (line : Nat) (text : List Char) : Option (List Token × Nat) :=
  let word := text.takeWhile Text.isIdentifierContinue
  let rest := text.drop word.length
  match LiteralForm.ofLetters? word, rest with
  | some form, '"' :: _ | some form, '\'' :: _ =>
    (readLiteral embed form line rest).map fun (tokens, width) => (tokens, word.length + width)
  | _, _ => some ([⟨.name (String.ofList word), line⟩], word.length)

/-- The token at the start of a text, which begins with no blank, and its width. With a formatted literal
the tokens of its parts come along. -/
def read (embed : Formatted.Embed) (line : Nat) (text : List Char) : Option (List Token × Nat) :=
  match text with
  | [] => none
  | c :: rest =>
    if Text.isIdentifierStart c then readWord embed line text
    else if c == '"' || c == '\'' then readLiteral embed {} line text
    else if c.isDigit || (c == '.' && (rest.head?.map Char.isDigit).getD false) then
      (readNumber text).map fun (value, width) => ([⟨.number value, line⟩], width)
    else
      (marks.find? fun mark => mark.toList.isPrefixOf text).map fun mark =>
        ([⟨.mark mark, line⟩], mark.length)

/-- How many brackets are open behind a token, or nothing if that is one too many. -/
def depthBehind? (depth : Nat) : List Token → Option Nat
  | [⟨.mark text, _⟩] =>
    if openingMarks.contains text then
      if depth < Formatted.nestingLimit then some (depth + 1) else none
    else if closingMarks.contains text then some (depth - 1)
    else some depth
  | _ => some depth

end Token

/-- A width of indentation, measured with tabs that go to the next multiple of eight, and with tabs that
count as one blank. Two lines compare only if both measures agree. -/
structure Indentation where
  width : Nat
  plainWidth : Nat
deriving DecidableEq, Repr

namespace Indentation

def isBlank (c : Char) : Bool := c == ' ' || c == '\t' || c == '\x0c'

/-- The indentation behind one more blank. A form feed starts it anew. -/
def behind (here : Indentation) (blank : Char) : Indentation :=
  if blank = '\t' then ⟨(here.width / 8 + 1) * 8, here.plainWidth + 1⟩
  else if blank = '\x0c' then ⟨0, 0⟩
  else ⟨here.width + 1, here.plainWidth + 1⟩

/-- The indentation of a line, what stands behind it, and the lines gone on to. A line can go on behind a
backslash; the indentation is then what stands in front of the first backslash, unless that is
nothing. -/
def read (text : List Char) (here : Indentation) (kept lines : Nat) :
    Option (Indentation × List Char × Nat) :=
  match text with
  | '\\' :: '\n' :: rest =>
    if rest.isEmpty then none
    else read rest here (if kept = 0 then here.width else kept) (lines + 1)
  | c :: rest =>
    if isBlank c then read rest (here.behind c) kept lines
    else some (if kept = 0 then here else ⟨kept, kept⟩, c :: rest, lines)
  | [] => some (if kept = 0 then here else ⟨kept, kept⟩, [], lines)

/-- How many levels of indentation can be open at once. -/
def levelLimit : Nat := 99

/-- Closes the levels deeper than a line. The line has to stand at a level that is open. -/
def close (line : Indentation) : List Indentation → Option (List TokenKind × List Indentation)
  | [] => if line.width = 0 ∧ line.plainWidth = 0 then some ([], []) else none
  | level :: outer =>
    if line.width = level.width then
      if line.plainWidth = level.plainWidth then some ([], level :: outer) else none
    else if line.width < level.width then do
      let (dedents, stillOpen) ← close line outer
      return (.dedent :: dedents, stillOpen)
    else none

/-- The tokens that a line with the given indentation begins with, and the levels open in it. -/
def arrange (line : Indentation) (levels : List Indentation) :
    Option (List TokenKind × List Indentation) :=
  let current := levels.headD ⟨0, 0⟩
  if current.width < line.width then
    if current.plainWidth < line.plainWidth ∧ levels.length < levelLimit then
      some ([.indent], line :: levels)
    else none
  else line.close levels

theorem length_read_le {text rest : List Char} {here line : Indentation} {kept lines behind : Nat}
    (found : read text here kept lines = some (line, rest, behind)) : rest.length ≤ text.length := by
  fun_induction read text here kept lines <;> simp_all <;> omega

end Indentation

namespace Token

private theorem length_dropWhile_le (p : Char → Bool) (text : List Char) :
    (text.dropWhile p).length ≤ text.length :=
  (List.dropWhile_suffix p).length_le

/-- The tokens of a text that begins on a line. `depth` brackets and the indentation `levels` are open, and
`atStart` tells whether the text begins the line. -/
def scan (embed : Formatted.Embed) (text : List Char) (line depth : Nat) (levels : List Indentation)
    (atStart : Bool) : Option (List Token) :=
  if atStart then
    match _found : Indentation.read text ⟨0, 0⟩ 0 0 with
    | none => none
    | some (_, [], _) => some (levels.map fun _ => ⟨.dedent, line⟩)
    | some (_, '\n' :: rest, lines) => scan embed rest (line + lines + 1) depth levels true
    | some (_, '#' :: rest, lines) =>
      scan embed (rest.dropWhile fun c => c != '\n') (line + lines) depth levels true
    | some (indentation, rest, lines) =>
      match indentation.arrange levels with
      | none => none
      | some (opening, levels) => do
        let line := line + lines
        return opening.map (⟨·, line⟩) ++ (← scan embed rest line depth levels false)
  else
    match text with
    | [] =>
      if depth = 0 then some (⟨.lineEnd, line⟩ :: levels.map fun _ => ⟨.dedent, line⟩) else none
    | '\\' :: '\n' :: rest =>
      if rest.isEmpty then none else scan embed rest (line + 1) depth levels false
    | c :: rest =>
      if c = '\n' then
        if depth = 0 then do
          return ⟨.lineEnd, line⟩ :: (← scan embed rest (line + 1) depth levels true)
        else scan embed rest (line + 1) depth levels false
      else if Indentation.isBlank c then scan embed rest line depth levels false
      else if c = '#' then
        scan embed (rest.dropWhile fun c => c != '\n') line depth levels false
      else
        match read embed line (c :: rest) with
        | none => none
        | some (tokens, width) => do
          let depth ← depthBehind? depth tokens
          let line := line + ((c :: rest).take width).count '\n'
          return tokens ++ (← scan embed (rest.drop (width - 1)) line depth levels false)
termination_by (text.length, if atStart then 1 else 0)
decreasing_by
  · have shorter := Indentation.length_read_le _found
    rw [List.length_cons] at shorter
    exact .left _ _ (by omega)
  · have shorter := Indentation.length_read_le _found
    have comment := length_dropWhile_le (fun c => c != '\n') rest
    rw [List.length_cons] at shorter
    exact .left _ _ (by omega)
  · have shorter := Indentation.length_read_le _found
    rcases Nat.lt_or_eq_of_le shorter with less | same
    · exact .left _ _ less
    · simp_all
      exact .right _ (by decide)
  · exact .left _ _ (by simp only [List.length_cons]; omega)
  · exact .left _ _ (by simp)
  · exact .left _ _ (by simp)
  · exact .left _ _ (by simp)
  · have comment := length_dropWhile_le (fun c => c != '\n') rest
    exact .left _ _ (by simp only [List.length_cons]; omega)
  · exact .left _ _ (by simp only [List.length_drop, List.length_cons]; omega)

/-- The tokens of a text that begins on a line and whose literals hold expressions nested to at most the
given depth. The line end behind an expression is none of its tokens. -/
def ofTextUpTo : Nat → List Char → (line : Nat) → Option (List Token)
  | 0, _, _ => none
  | nesting + 1, text, line =>
    scan (fun source line => (ofTextUpTo nesting source line).map List.dropLast) text line 0 [] true

/-- The tokens of a whole text. -/
def ofText (text : List Char) : Option (List Token) :=
  ofTextUpTo (text.length + 1) (Text.unifyLineEnds text) 1

end Token

end SelectionGen.Target
