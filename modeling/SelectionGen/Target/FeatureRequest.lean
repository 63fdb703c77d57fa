import SelectionGen.Target.Code
import SelectionGen.Target.CodeFault

/-! Requests for features of the language. They look like imports and have to stand in front of all other
code, behind nothing but texts that document the module. -/
namespace SelectionGen.Target
namespace FeatureRequest

/-- The module that features are asked from. -/
def source : String := "__future__"

/-- The features there are. -/
def known : List String :=
  ["nested_scopes", "generators", "division", "absolute_import", "with_statement", "print_function",
    "unicode_literals", "barry_as_FLUFL", "generator_stop", "annotations"]

/-- The feature that leaves types unread. -/
def textTypes : String := "annotations"

/-- The names that a statement asks for, if it is a request. -/
def ofStatement? (statement : Statement) : Option (List String) :=
  match statement.form with
  | .importsFrom _ (some name) names =>
    if name = source then some ((names.map fun found => found.map ImportedName.name).getD ["*"])
    else none
  | _ => none

/-- What is wrong with a name that is asked for. -/
def problem? (name : String) : Option CodeProblem :=
  if known.contains name then none
  else if name = "braces" then some .refusedFeature
  else some (.unknownFeature name)

/-- Whether a statement is a text alone. -/
def isText (statement : Statement) : Bool :=
  match statement.form with
  | .expression ⟨_, .constant (.text _)⟩ => true
  | _ => false

/-- The requests at the beginning of code. -/
structure Preamble where
  names : List String := []
  lastLine : Nat := 0

/-- Reads the requests that code begins with. Other code ends them: behind it, a request on the same line
is too late at once; those on later lines are met when the code is gone through. -/
def preambleFrom (found : Preamble) (isOver : Bool) (line : Nat) : Code → Except CodeFault Preamble
  | [] => .ok found
  | statement :: rest =>
    if isOver && line < statement.line then .ok found
    else
      match ofStatement? statement with
      | some names =>
        if isOver then .error ⟨.lateFeature, statement.line⟩
        else match names.findSome? problem? with
          | some problem => .error ⟨problem, statement.line⟩
          | none =>
            preambleFrom ⟨found.names ++ names, statement.line⟩ false statement.line rest
      | none => preambleFrom found true statement.line rest

/-- The requests at the beginning of code, behind the text that documents it. -/
def preamble (code : Code) : Except CodeFault Preamble :=
  preambleFrom {} false 0 (if (code.take 1).any isText then code.drop 1 else code)

end FeatureRequest

end SelectionGen.Target
