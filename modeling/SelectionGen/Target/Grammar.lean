import SelectionGen.Target.Grammar.Statement
import SelectionGen.Target.Nesting

/-! Which texts are modules of the target language: those whose tokens are a sequence of statements, not too
deeply nested. -/
namespace SelectionGen.Target

/-- What keeps a text from being a module. A null character is met before anything else, and what goes too
deep to be read is met while reading. -/
inductive TextFault
  | nullCharacter
  | malformed
  | unreadable
  | tooDeep
deriving DecidableEq, Repr

/-- How many operators can wait for their last operand. The number is that of the language's own reader in version
3.11, whose calls nest at most 6000 deep. -/
def readingLimit : Nat := 5969

/-- How deep the tree of a text can be. Version 3.11 of the reader builds three levels for each call that there is still
room for. The number is for the preset room of 1000 calls and for texts that are read while ten calls are open, that of
the reader among them; with more calls open it is smaller. -/
def treeLimit : Nat := 2969

/-- Reads the code of a text. -/
def readCode (text : String) : Except TextFault Code :=
  let characters := text.toList
  if characters.contains '\x00' then .error .nullCharacter
  else
    match (Token.ofText characters).bind Grammar.codeOf with
    | none => .error .malformed
    | some code =>
      if readingLimit < codeDepth .ofReading code then .error .unreadable
      else if treeLimit < codeDepth .ofTree code then .error .tooDeep
      else .ok code

end SelectionGen.Target
