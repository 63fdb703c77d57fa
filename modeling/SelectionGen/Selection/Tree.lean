import SelectionGen.Sdl.Document
import SelectionGen.Sdl.Lexer

/-! Selections as trees, and how they are written in a query. A selection is a sequence of entries, each a
field alone or a field with a selection below it. Written out, a selection is never empty: where nothing
is selected the name of the type is asked for, so that the query stays valid. -/
namespace SelectionGen

/-- What is selected, entry by entry. -/
inductive Selection
  | nil
  | leaf (field : String) (rest : Selection)
  | nest (field : String) (below rest : Selection)
deriving DecidableEq, Repr

namespace Selection

/-- The field that every type has. -/
def typeNameField : String := "__typename"

/-- Entries in braces with blanks between them. -/
def inBraces (entries : List String) : String :=
  match entries with
  | [] => "\x7b " ++ typeNameField ++ " \x7d"
  | _ => "\x7b " ++ " ".intercalate entries ++ " \x7d"

/-- The entries as they are written. -/
def entries : Selection → List String
  | nil => []
  | leaf field rest => field :: rest.entries
  | nest field below rest => (field ++ " " ++ inBraces below.entries) :: rest.entries

/-- The selection as a selection set. -/
def serialize (selection : Selection) : String := inBraces selection.entries

end Selection

/-- A whole operation: its keyword, its name unless that is empty, and what it selects. -/
def queryText (operation : String) (name : Option String) (selection : String) : String :=
  match name with
  | some found =>
    if found = "" then operation ++ " " ++ selection
    else operation ++ " " ++ found ++ " " ++ selection
  | none => operation ++ " " ++ selection

/-! Reading selections back from the text of a query. Only what selections are written with is read: names, and
braces around at least one selection. How deep the braces go is not limited. -/

namespace Selection

open Sdl

/-- What the tokens of a text say, if all of it is spelled correctly. -/
def lexemes? (text : String) : Option (List Lexeme) :=
  let stream := TokenStream.ofString text
  match stream.ending with
  | .ok _ => some (stream.tokens.map Token.lexeme)
  | .error _ => none

/-- Reads selections and the brace that closes them, in at most the given number of steps. -/
def readEntries : Nat → List Lexeme → Option (Selection × List Lexeme)
  | _ + 1, .mark .braceClose :: behind => some (.nil, behind)
  | steps + 1, .name field :: .mark .braceOpen :: inside => do
    let (below, behind) ← readEntries steps inside
    guard (below ≠ .nil)
    let (rest, behind) ← readEntries steps behind
    return (.nest field.text below rest, behind)
  | steps + 1, .name field :: behind => do
    let (rest, behind) ← readEntries steps behind
    return (.leaf field.text rest, behind)
  | _, _ => none

/-- The selection set that some lexemes are, all of them. -/
def ofLexemes? : List Lexeme → Option Selection
  | .mark .braceOpen :: inside => do
    let (found, behind) ← readEntries inside.length inside
    guard (found ≠ .nil ∧ behind = [])
    return found
  | _ => none

/-- The selection set that a text is. -/
def ofText? (text : String) : Option Selection := do ofLexemes? (← lexemes? text)

/-- The operation that some lexemes are: its keyword, its name if it has one, and its selection set. -/
def operationOfLexemes? : List Lexeme → Option (Operation × Option String × Selection)
  | .name keyword :: .name name :: set => do
    return (← Operation.ofKeyword? keyword.text, some name.text, ← ofLexemes? set)
  | .name keyword :: set => do return (← Operation.ofKeyword? keyword.text, none, ← ofLexemes? set)
  | _ => none

/-- The operation that a text is. -/
def operationOfText? (text : String) : Option (Operation × Option String × Selection) := do
  operationOfLexemes? (← lexemes? text)

end Selection

end SelectionGen
