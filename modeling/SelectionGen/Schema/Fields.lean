import SelectionGen.Schema.Lookup
import SelectionGen.Settings.Basic

/-! The fields of a type that generation looks at. A type has its own fields and those of the object
extensions of its name; of two fields of one name the first counts. Settings and directives then take
fields away. -/
namespace SelectionGen.Schema

open Sdl

/-- The fields that a definition adds to the object type of the given name. -/
def extensionFields (name : Name) (definition : Definition) : List Field :=
  match definition.type? with
  | some found =>
    if found.kind = .object ∧ found.isExtension = true ∧ found.name = name then found.fields else []
  | none => []

/-- The own fields of the definition at a position, then those of all other object extensions of its
name in the order of the document. -/
def candidateFields (document : Document) (position : Nat) (definition : TypeDefinition) :
    List Field :=
  definition.fields ++ (document.eraseIdx position).flatMap (extensionFields definition.name)

/-- The fields whose name is neither among `seen` nor that of a field before. -/
def firstOccurrences (seen : List Name) : List Field → List Field
  | [] => []
  | field :: rest =>
    if field.name ∈ seen then firstOccurrences seen rest
    else field :: firstOccurrences (field.name :: seen) rest

/-- The fields that `firstOccurrences` leaves out. -/
def laterOccurrences (seen : List Name) : List Field → List Field
  | [] => []
  | field :: rest =>
    if field.name ∈ seen then field :: laterOccurrences seen rest
    else laterOccurrences (field.name :: seen) rest

/-- The fields of a type with those of its extensions, each name once. -/
def mergedFields (document : Document) (position : Nat) (definition : TypeDefinition) : List Field :=
  firstOccurrences [] (candidateFields document position definition)

/-- The fields that merging leaves out because their name is taken. -/
def repeatedFields (document : Document) (position : Nat) (definition : TypeDefinition) : List Field :=
  laterOccurrences [] (candidateFields document position definition)

/-- Fields with this directive are left out of the generated code. -/
def skipDirective : String := "skipcodegen"

def isSkipped (field : Field) : Bool := field.directives.any fun name => name.text == skipDirective

/-- The fields without the skip directive. -/
def withoutSkipped (fields : List Field) : List Field := fields.filter fun field => !isSkipped field

/-- The fields of a type that the settings want. An empty entry wants none. -/
def includedFields (settings : Settings) (owner : String) (fields : List Field) : List Field :=
  match settings.allowed? owner with
  | none => fields
  | some allowed => fields.filter fun field => allowed.contains field.name.text

/-- The fields that survive both policies. -/
def filteredFields (settings : Settings) (owner : String) (fields : List Field) : List Field :=
  withoutSkipped (includedFields settings owner fields)

/-- The fields of a type that generation looks at. -/
def survivingFields (settings : Settings) (document : Document) (position : Nat)
    (definition : TypeDefinition) : List Field :=
  filteredFields settings definition.name.text (mergedFields document position definition)

end SelectionGen.Schema
