import SelectionGen.Target.Code
import SelectionGen.Target.Literal

/-! Formatted literals. Their content is plain text with replacement fields in braces; a brace written
twice is plain text. A field holds an expression, and behind it possibly an equals sign, a conversion and
a format, in which fields may stand again, but in those no further ones. With an equals sign the text of
the expression stands in front of its value. -/
namespace SelectionGen.Target
namespace Formatted

def isBrace (c : Char) : Bool := c == '{' || c == '}'

/-- The plain text in front of the next brace, and what begins there. Unless the literal is raw, the
braces around the name of a character are part of the text. -/
def plainText (isRaw : Bool) : List Char → List Char × List Char
  | [] => ([], [])
  | '\\' :: 'N' :: '{' :: rest =>
    if isRaw then (['\\', 'N'], '{' :: rest)
    else
      let name := rest.takeWhile fun c => c != '}'
      let (text, behind) := plainText isRaw (rest.drop (name.length + 1))
      ('\\' :: 'N' :: '{' :: name ++ (rest.drop name.length).take 1 ++ text, behind)
  | '\\' :: '\\' :: rest =>
    let (text, behind) := plainText isRaw rest
    ('\\' :: '\\' :: text, behind)
  | c :: rest =>
    if isBrace c then ([], c :: rest)
    else
      let (text, behind) := plainText isRaw rest
      (c :: text, behind)
termination_by text => text.length
decreasing_by all_goals (simp only [List.length_cons, List.length_drop]; omega)

def closingOf? : Char → Option Char
  | '(' => some ')'
  | '[' => some ']'
  | '{' => some '}'
  | _ => none

def isClosing (c : Char) : Bool := c == ')' || c == ']' || c == '}'

/-- How many brackets can be open at once. -/
def nestingLimit : Nat := 200

/-- Whether a mark at the end of an expression begins a comparison instead. -/
def beginsComparison (c : Char) (rest : List Char) : Bool :=
  (c == '!' || c == '=' || c == '<' || c == '>') && rest.head? == some '='

/-- The expression at the start of a field, and what follows it. The closing brackets still due are
`due`. Neither a backslash nor a comment can be part of an expression. -/
def expression? (text due : List Char) : Option (List Char × List Char) :=
  match text with
  | [] => none
  | c :: rest =>
    let continued (taken : List Char × List Char) := (c :: taken.1, taken.2)
    if c = '\\' ∨ c = '#' then none
    else if c = '"' ∨ c = '\'' then do
      let (inner, width) ← Literal.content? (c :: rest)
      if inner.contains '\\' then none
      let (found, behind) ← expression? (rest.drop (width - 1)) due
      return (c :: rest.take (width - 1) ++ found, behind)
    else
      match closingOf? c, due with
      | some closing, due =>
        if nestingLimit ≤ due.length then none
        else (expression? rest (closing :: due)).map continued
      | none, closing :: outer =>
        if c = closing then (expression? rest outer).map continued
        else if isClosing c then none
        else (expression? rest due).map continued
      | none, [] =>
        if beginsComparison c rest then
          (expression? (rest.drop 1) []).map fun (found, behind) => (c :: '=' :: found, behind)
        else if c = '!' ∨ c = ':' ∨ c = '}' ∨ c = '=' then some ([], c :: rest)
        else if isClosing c then none
        else (expression? rest []).map continued
termination_by text.length

def isBlank (c : Char) : Bool :=
  c == ' ' || c == '\t' || c == '\n' || c == '\x0b' || c == '\x0c'

/-- The equals sign behind an expression with the blanks around it, and what follows. -/
def equalsSign : List Char → List Char × List Char
  | '=' :: rest => ('=' :: rest.takeWhile isBlank, rest.dropWhile isBlank)
  | text => ([], text)

/-- The letter of a conversion, if there is one, and what follows. There are three. -/
def conversion? : List Char → Option (Option Char × List Char)
  | '!' :: letter :: rest =>
    if (letter = 's' ∨ letter = 'r' ∨ letter = 'a') ∧ (rest.head? = some '}' ∨ rest.head? = some ':')
    then some (some letter, rest)
    else none
  | '!' :: [] => none
  | text => some (none, text)

/-- The conversion of a field. A value behind the text of its expression is quoted, unless it has a
conversion or a format. -/
def conversionOf (given : Option Char) (hasText hasFormat : Bool) : Option Char :=
  if hasText && !hasFormat && given.isNone then some 'r' else given

/-- A plain text as it reads, unless it is not well formed. -/
def plainValue? (isRaw : Bool) (text : List Char) : Option String :=
  String.ofList <$> (if isRaw then some text else Literal.unescape false text)

/-- How the expressions of a literal are read: its tokens, given its text and the line it begins on. -/
abbrev Embed := List Char → (line : Nat) → Option (List Token)

/-- The tokens of a content with at most the given number of parts, and what follows the content. At level
zero it is that of a literal and goes up to the end, below it is a format and goes up to a closing
brace. `lineAt` tells the line from what follows. -/
def tokensUpTo (embed : Embed) (isRaw : Bool) (lineAt : List Char → Nat) :
    Nat → (level : Nat) → List Char → Option (List Token × List Char)
  | 0, _, _ => none
  | steps + 1, level, text => do
    let line := lineAt text
    let (plain, rest) := plainText isRaw text
    let plain := ⟨.plain (← plainValue? isRaw plain), line⟩
    match rest with
    | [] => return ([plain], [])
    | brace :: behind =>
      if level = 0 ∧ behind.head? = some brace then
        let (others, behind) ← tokensUpTo embed isRaw lineAt steps level (behind.drop 1)
        return (plain :: ⟨.plain (String.singleton brace), line⟩ :: others, behind)
      else if brace = '}' then if level = 0 then none else return ([plain], rest)
      else if 2 ≤ level then none
      else do
        let line := lineAt rest
        let (source, behind) ← expression? behind []
        if source.all isBlank then none
        let expression ← embed ('(' :: source ++ [')']) line
        let (equals, behind) := equalsSign behind
        let shown := if equals.isEmpty then "" else String.ofList (source ++ equals)
        let (conversion, behind) ← conversion? behind
        let hasFormat := behind.head? = some ':'
        let (format, behind) ← match behind with
          | [':'] => none
          | ':' :: format => tokensUpTo embed isRaw lineAt steps (level + 1) format
          | _ => some ([], behind)
        match behind with
        | '}' :: behind =>
          let (others, behind) ← tokensUpTo embed isRaw lineAt steps level behind
          let field := TokenKind.field (conversionOf conversion (!equals.isEmpty) hasFormat)
          return (plain :: ⟨.plain shown, line⟩ :: ⟨field, line⟩ :: expression ++ format
            ++ ⟨.finish, line⟩ :: others, behind)
        | _ => none

/-- The tokens of the content of a formatted literal that begins on a line. -/
def tokens? (embed : Embed) (isRaw : Bool) (line : Nat) (content : List Char) :
    Option (List Token) := do
  let lastLine := line + content.count '\n'
  let lineAt (rest : List Char) : Nat := lastLine - rest.count '\n'
  let (found, _) ← tokensUpTo embed isRaw lineAt (content.length + 1) 0 content
  return ⟨.formatted, line⟩ :: found ++ [⟨.finish, line⟩]

end Formatted

end SelectionGen.Target
