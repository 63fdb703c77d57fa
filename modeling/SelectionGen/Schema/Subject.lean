import SelectionGen.Schema.Fields

/-! Definitions picked by their place in a document. What is picked has to have a name, and counts as a type
of that name: a definition that is none has no fields of its own, like a scalar. Definitions are spoken
of by the names of their nodes. -/
namespace SelectionGen

/-- The name of a kind of type in the names of nodes. -/
def Sdl.TypeKind.nodeStem : Sdl.TypeKind → String
  | .scalar => "ScalarType"
  | .object => "ObjectType"
  | .interface => "InterfaceType"
  | .union => "UnionType"
  | .enumeration => "EnumType"
  | .inputObject => "InputObjectType"

/-- The name of the node that a definition is. -/
def Sdl.Definition.nodeName (definition : Sdl.Definition) : String :=
  let named (isExtension : Bool) (stem : String) :=
    stem ++ (if isExtension then "Extension" else "Definition") ++ "Node"
  match definition with
  | .type found => named found.isExtension found.kind.nodeStem
  | .schema isExtension _ _ => named isExtension "Schema"
  | .directive isExtension _ _ => named isExtension "Directive"
  | .operation _ _ => named false "Operation"
  | .fragment _ _ => named false "Fragment"

/-- The type that a definition counts as, if it has a name. -/
def Sdl.Definition.asType? : Sdl.Definition → Option Sdl.TypeDefinition
  | .type found => some found
  | other => other.name?.map fun name =>
    { kind := .scalar, name, description := other.description? }

namespace Schema

open Sdl

/-- Why a definition cannot be looked at as wanted. -/
inductive SubjectError
  | absent
  | anonymous
  | missing (node part : String)
deriving DecidableEq, Repr

namespace SubjectError

def message : SubjectError → String
  | absent => "tuple index out of range"
  | anonymous => "'NoneType' object has no attribute 'value'"
  | missing node part => "'" ++ node ++ "' object has no attribute '" ++ part ++ "'"

end SubjectError

/-- The definition at a position. -/
def definitionAt (document : Document) (position : Nat) : Except SubjectError Definition :=
  match document[position]? with
  | some definition => .ok definition
  | none => .error .absent

/-- The type that the definition at a position counts as. Operations may lack a name; schema entries have
no place for one. -/
def subjectAt (document : Document) (position : Nat) : Except SubjectError TypeDefinition := do
  let definition ← definitionAt document position
  match definition.asType?, definition with
  | some found, _ => .ok found
  | none, .operation _ _ => .error .anonymous
  | none, _ => .error (.missing definition.nodeName "name")

/-- Objects, interfaces and input objects have a list of fields, which may be empty. -/
def TypeKind.listsFields : TypeKind → Bool
  | .object | .interface | .inputObject => true
  | .scalar | .union | .enumeration => false

/-- The own fields of the definition at a position, which has to be of a kind that lists fields. -/
def ownFieldsAt (document : Document) (position : Nat) : Except SubjectError (List Field) := do
  let definition ← definitionAt document position
  match definition.type? with
  | some found =>
    if TypeKind.listsFields found.kind then return found.fields
    else throw (.missing definition.nodeName "fields")
  | none => throw (.missing definition.nodeName "fields")

end Schema

end SelectionGen
