import SelectionGen.Sdl.Name

/-! Documents of the schema language, as far as generation looks at them. A type reference is a named
type with its wrappers listed from the outside in, so removing the wrappers is a projection. A type
definition and an extension of the same kind of type differ in one flag only, because nearly every
rule treats the two alike. Values, enum members and selection sets decide nothing in the generated
code; the reader checks them and keeps none. -/
namespace SelectionGen.Sdl

/-- What can be put around a type: `[T]` or `T!`. -/
inductive Wrapper
  | list
  | nonNull
deriving DecidableEq, Repr

/-- A reference to a named type through any number of wrappers, the outermost first. -/
structure TypeRef where
  wrappers : List Wrapper
  named : Name
deriving DecidableEq, Repr

/-- The reference with one more wrapper around it. -/
def TypeRef.wrap (outer : Wrapper) (inner : TypeRef) : TypeRef :=
  { inner with wrappers := outer :: inner.wrappers }

/-- How a reference is written, for example `[Person!]!`. -/
def TypeRef.render (reference : TypeRef) : String :=
  go reference.wrappers
where
  go : List Wrapper → String
    | [] => reference.named.text
    | .list :: inner => "[" ++ go inner ++ "]"
    | .nonNull :: inner => go inner ++ "!"

/-- Wrappers around nothing do not make a reference. -/
inductive ReferenceError
  | noNamedType
deriving DecidableEq, Repr

def ReferenceError.message : ReferenceError → String
  | .noNamedType => "Expected NamedTypeNode, got NoneType"

/-- A reference needs a named type under its wrappers. -/
def TypeRef.ofParts (wrappers : List Wrapper) : Option Name → Except ReferenceError TypeRef
  | some named => .ok ⟨wrappers, named⟩
  | none => .error .noNamedType

/-- A field of an object, interface or input type. Of arguments and directives only the names count. -/
structure Field where
  name : Name
  type : TypeRef
  arguments : List Name := []
  directives : List Name := []
  description : Option String := none
deriving DecidableEq, Repr

/-- The six kinds of named types. -/
inductive TypeKind
  | scalar
  | object
  | interface
  | union
  | enumeration
  | inputObject
deriving DecidableEq, Repr

/-- A type definition, or an extension of one. Only objects, interfaces and input objects have fields. -/
structure TypeDefinition where
  kind : TypeKind
  isExtension : Bool := false
  name : Name
  description : Option String := none
  fields : List Field := []
deriving DecidableEq, Repr

/-- The operations a schema can name a root type for. -/
inductive Operation
  | query
  | mutation
  | subscription
deriving DecidableEq, Repr

def Operation.keyword : Operation → String
  | .query => "query"
  | .mutation => "mutation"
  | .subscription => "subscription"

def Operation.ofKeyword? : String → Option Operation
  | "query" => some .query
  | "mutation" => some .mutation
  | "subscription" => some .subscription
  | _ => none

/-- One entry of a document. Only types and schema entries matter for generation. -/
inductive Definition
  | type (definition : TypeDefinition)
  | schema (isExtension : Bool) (description : Option String) (roots : List (Operation × Name))
  | directive (isExtension : Bool) (name : Name) (description : Option String)
  | operation (name : Option Name) (description : Option String)
  | fragment (name : Name) (description : Option String)
deriving DecidableEq, Repr

/-- A document is the list of its definitions; a position in it tells equal definitions apart. -/
abbrev Document := List Definition

namespace Definition

def name? : Definition → Option Name
  | .type definition => some definition.name
  | .schema .. => none
  | .directive _ name _ => some name
  | .operation name _ => name
  | .fragment name _ => some name

def description? : Definition → Option String
  | .type definition => definition.description
  | .schema _ description _ => description
  | .directive _ _ description => description
  | .operation _ description => description
  | .fragment _ description => description

/-- The type that a definition defines or extends. -/
def type? : Definition → Option TypeDefinition
  | .type definition => some definition
  | _ => none

def fields (definition : Definition) : List Field :=
  match definition.type? with
  | some found => found.fields
  | none => []

/-- The root types that a definition names; none unless it is a schema entry. -/
def roots : Definition → List (Operation × Name)
  | .schema _ _ roots => roots
  | _ => []

end Definition

end SelectionGen.Sdl
