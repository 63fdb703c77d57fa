import SelectionGen.Projection.Basic
import SelectionGen.Projection.Naming
import SelectionGen.Schema.Fields

/-! The projection of one type. It depends on the schema, the settings and the type alone, not on what
else is generated: a field that leads to an object or interface gets a composite accessor into the
class of that type's name, any other field a leaf. -/
namespace SelectionGen.Projection

open Sdl Schema

/-- What a run works on. -/
structure Context where
  settings : Settings
  document : Document

/-- How the type of a field is looked up. Below the root, a field with arguments also finds scalars;
an extension is never found. -/
def fieldScope (isRoot : Bool) (field : Field) : LookupScope :=
  let hasArguments := !isRoot && !field.arguments.isEmpty
  { excludeExtensions := true, includeBuiltins := hasArguments, includeScalars := hasArguments }

/-- A field and what its type leads to. -/
structure ResolvedField where
  field : Field
  resolution : Option Resolution
deriving DecidableEq, Repr

namespace ResolvedField

/-- The type that a selection of the field goes on in. -/
def target? (resolved : ResolvedField) : Option (Nat × TypeDefinition) :=
  resolved.resolution.bind Resolution.projectable?

end ResolvedField

namespace Context

/-- The surviving fields of the definition at a position, with what their types lead to. -/
def resolvedFields (context : Context) (isRoot : Bool) (position : Nat)
    (definition : TypeDefinition) : List ResolvedField :=
  (survivingFields context.settings context.document position definition).map fun field =>
    ⟨field, resolve? context.document field.type (fieldScope isRoot field)⟩

/-- The class that projections of a type are generated in. -/
def clientClass (context : Context) (typeName : Name) : ClassRef :=
  ⟨context.settings.clientPackage, className typeName.text⟩

/-- What the accessor of a field does. -/
def selector (context : Context) (resolved : ResolvedField) : Selector :=
  match resolved.target? with
  | some (_, definition) => .composite (context.clientClass definition.name)
  | none => .leaf

/-- The accessors of fields in order, where some names are taken already. -/
def accessors (context : Context) (taken : List String) : List ResolvedField → List Accessor
  | [] => []
  | resolved :: rest =>
    let name := accessorName taken resolved.field.name.text
    { name, fieldName := resolved.field.name.text, selector := context.selector resolved,
      description := resolved.field.description : Accessor }
      :: context.accessors (name :: taken) rest

/-- The projection of the definition at a position, in a class of the given name. -/
def projectionOf (context : Context) (name : String) (position : Nat)
    (definition : TypeDefinition) : Projection where
  classRef := ⟨context.settings.clientPackage, name⟩
  sourceType := definition.name.text
  accessors := context.accessors [] (context.resolvedFields false position definition)
  description := definition.description

/-- The entry point of a root type. Only fields that lead to further projections have a place there. -/
def rootProjectionOf (context : Context) (position : Nat) (definition : TypeDefinition) :
    Projection where
  classRef := ⟨context.settings.queriesPackage, className definition.name.text⟩
  sourceType := definition.name.text
  accessors := context.accessors []
    ((context.resolvedFields true position definition).filter fun resolved =>
      resolved.target?.isSome)
  description := definition.description
  isRoot := true

end Context

end SelectionGen.Projection
