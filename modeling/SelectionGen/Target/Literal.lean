import SelectionGen.Sdl.Lexer
import SelectionGen.Text.CharacterName

/-! String literals of the target language. A literal stands between single or triple quotes, with an
optional letter or two in front that change how it is read. Reading gives its value, or nothing if the
literal is not well formed. -/
namespace SelectionGen.Target

/-- How the letters in front of a literal change its reading. -/
structure LiteralForm where
  isRaw : Bool := false
  isBytes : Bool := false
  isFormatted : Bool := false
deriving DecidableEq, Repr

namespace LiteralForm

/-- The letters that may stand in front of a literal, in either case. -/
def ofLetters? (letters : List Char) : Option LiteralForm :=
  match letters.map Char.toLower with
  | [] | ['u'] => some {}
  | ['f'] => some { isFormatted := true }
  | ['r'] => some { isRaw := true }
  | ['r', 'f'] | ['f', 'r'] => some { isRaw := true, isFormatted := true }
  | ['b'] => some { isBytes := true }
  | ['r', 'b'] | ['b', 'r'] => some { isRaw := true, isBytes := true }
  | _ => none

end LiteralForm

namespace Literal

/-- The content of a literal behind its opening quotes, and its width up to the end of the closing ones.
Only a literal in triple quotes goes past the end of its line, unless a backslash stands there. -/
def body (quote : Char) (isTriple : Bool) : List Char → Option (List Char × Nat)
  | [] => none
  | [c] => if c = quote ∧ !isTriple then some ([], 1) else none
  | '\\' :: c :: rest => do
    let (content, width) ← body quote isTriple rest
    return ('\\' :: c :: content, width + 2)
  | c :: d :: rest =>
    if c = quote ∧ !isTriple then some ([], 1)
    else if c = quote ∧ isTriple ∧ d = quote ∧ rest.head? = some quote then some ([], 3)
    else if c = '\n' ∧ !isTriple then none
    else do
      let (content, width) ← body quote isTriple (d :: rest)
      return (c :: content, width + 1)

/-- The number spelled by digits of base sixteen, all of them. -/
def hexNumber? (digits : List Char) : Option Nat :=
  digits.foldlM (fun value digit => do return value * 16 + (← Sdl.Lexeme.hexValue? digit)) 0

def isOctalDigit (c : Char) : Bool := '0' ≤ c && c ≤ '7'

/-- A character by its code point. Surrogates have no character of their own. -/
def characterOf? (value : Nat) : Option Char :=
  if value ≤ 0x10FFFF then some ((Sdl.Lexeme.scalar? value).getD '\ufffd') else none

/-- A character given by a fixed count of digits of base sixteen. -/
def hexEscape (count : Nat) (text : List Char) : Option (List Char × Nat) := do
  if text.length < count then none
  let c ← characterOf? (← hexNumber? (text.take count))
  return ([c], count + 1)

/-- What an escape behind its backslash stands for, and its width there. A backslash in front of any
other character, or of nothing, is no escape and stays. -/
def escape (isBytes : Bool) : List Char → Option (List Char × Nat)
  | [] => some (['\\'], 0)
  | '\n' :: _ => some ([], 1)
  | '\\' :: _ => some (['\\'], 1)
  | '\'' :: _ => some (['\''], 1)
  | '"' :: _ => some (['"'], 1)
  | 'a' :: _ => some (['\x07'], 1)
  | 'b' :: _ => some (['\x08'], 1)
  | 'f' :: _ => some (['\x0c'], 1)
  | 'n' :: _ => some (['\n'], 1)
  | 'r' :: _ => some (['\r'], 1)
  | 't' :: _ => some (['\t'], 1)
  | 'v' :: _ => some (['\x0b'], 1)
  | 'x' :: rest => hexEscape 2 rest
  | c :: rest =>
    if isOctalDigit c then
      let digits := ((c :: rest).take 3).takeWhile isOctalDigit
      let value := digits.foldl (fun value digit => value * 8 + (digit.toNat - '0'.toNat)) 0
      (characterOf? value).map fun found => ([found], digits.length)
    else if isBytes then some (['\\', c], 1)
    else if c = 'u' then hexEscape 4 rest
    else if c = 'U' then hexEscape 8 rest
    else if c = 'N' then
      match rest with
      | '{' :: name =>
        let found := name.takeWhile fun c => c != '}'
        if found.length < name.length then
          (Text.namedCharacter? found).map fun c => ([c], found.length + 3)
        else none
      | _ => none
    else some (['\\', c], 1)

/-- The value of a content with escapes. -/
def unescape (isBytes : Bool) (content : List Char) : Option (List Char) :=
  match content with
  | [] => some []
  | '\\' :: rest =>
    match escape isBytes rest with
    | some (found, width) => do return found ++ (← unescape isBytes (rest.drop width))
    | none => none
  | c :: rest => do return c :: (← unescape isBytes rest)
termination_by content.length

/-- The value of a literal of the given form. Bytes hold nothing past the basic alphabet. -/
def value? (form : LiteralForm) (content : List Char) : Option (List Char) :=
  if form.isBytes && content.any fun c => c.toNat ≥ 0x80 then none
  else if form.isRaw then some content
  else unescape form.isBytes content

/-- The content of a literal that starts at its opening quotes, and the width of the whole. -/
def content? : List Char → Option (List Char × Nat)
  | q :: rest =>
    if q ≠ '"' ∧ q ≠ '\'' then none
    else
      let isTriple := rest.take 2 == [q, q]
      let opening := if isTriple then 3 else 1
      (body q isTriple (rest.drop (opening - 1))).map fun (content, width) =>
        (content, opening + width)
  | [] => none

/-- A literal that starts at its opening quotes: its value and its width. -/
def read (form : LiteralForm) (text : List Char) : Option (List Char × Nat) := do
  let (content, width) ← content? text
  return (← value? form content, width)

end Literal

end SelectionGen.Target
