import SelectionGen.Sdl.Document
import SelectionGen.Text.Printable

/-! Finding definitions by name. A document may define a name more than once; the first definition that
a lookup may use is the one that counts. Definitions are found together with their position, which
tells equal ones apart. -/
namespace SelectionGen.Schema

open Sdl

/-- Which definitions a lookup may use besides the definitions of types that are no scalars. -/
structure LookupScope where
  excludeExtensions : Bool := false
  includeBuiltins : Bool := false
  includeScalars : Bool := false
deriving DecidableEq, Repr

/-- What a reference leads to: a definition at a position, or a scalar that needs no definition. -/
inductive Resolution
  | builtin (name : Name)
  | declared (position : Nat) (definition : TypeDefinition)
deriving DecidableEq, Repr

/-- The scalars that every schema has. -/
def builtinScalars : List String := ["String", "Int", "Float", "Boolean", "ID"]

def isBuiltinScalar (name : String) : Bool := builtinScalars.contains name

/-- Scalars have one switch for definitions and extensions; other extensions have their own. -/
def LookupScope.admits (scope : LookupScope) (definition : TypeDefinition) : Bool :=
  match definition.kind with
  | .scalar => scope.includeScalars
  | _ => !(definition.isExtension && scope.excludeExtensions)

/-- The first definition of a name that the scope admits, and its position. -/
def findType? (document : Document) (name : Name) (scope : LookupScope) :
    Option (Nat × TypeDefinition) :=
  document.zipIdx.findSome? fun (definition, position) =>
    match definition.type? with
    | some found => if found.name = name ∧ scope.admits found then some (position, found) else none
    | none => none

/-- What a reference leads to in a document. Wrappers do not matter. -/
def resolve? (document : Document) (reference : TypeRef) (scope : LookupScope) : Option Resolution :=
  if scope.includeBuiltins && isBuiltinScalar reference.named.text then
    some (.builtin reference.named)
  else
    (findType? document reference.named scope).map fun (position, found) => .declared position found

/-- The type defined or extended at a position. -/
def typeAt? (document : Document) (position : Nat) : Option TypeDefinition :=
  document[position]?.bind Definition.type?

end Schema

/-- Objects and interfaces have fields to select. -/
def Sdl.TypeDefinition.isProjectable (definition : Sdl.TypeDefinition) : Bool :=
  definition.kind == .object || definition.kind == .interface

namespace Schema

namespace Resolution

def typeName : Resolution → Sdl.Name
  | builtin name => name
  | declared _ definition => definition.name

/-- The definition that was found, if fields can be selected on it. -/
def projectable? : Resolution → Option (Nat × Sdl.TypeDefinition)
  | builtin _ => none
  | declared position definition =>
    if definition.isProjectable then some (position, definition) else none

end Resolution

/-! Root types. A schema entry names the root type of an operation; without one it has the customary
name. A schema that only extends its root type is still generated from, by its first extension. -/

open Sdl

def customaryQuery : Name := ⟨"Query", by decide +kernel⟩

def customaryMutation : Name := ⟨"Mutation", by decide +kernel⟩

def customarySubscription : Name := ⟨"Subscription", by decide +kernel⟩

/-- The root type of an operation that no schema entry names. -/
def customaryRoot : Operation → Name
  | .query => customaryQuery
  | .mutation => customaryMutation
  | .subscription => customarySubscription

/-- The name of the root type: the first that a schema entry gives for the operation. -/
def rootName (document : Document) (operation : Operation) : Name :=
  ((document.flatMap Definition.roots).lookup operation).getD (customaryRoot operation)

/-- An operation no schema can have a root type for. -/
inductive RootError
  | unknownOperation (keyword : String)
deriving DecidableEq, Repr

def RootError.message : RootError → String
  | .unknownOperation keyword => Text.quoted keyword

/-- The operation that a keyword means. -/
def operationOf (keyword : String) : Except RootError Operation :=
  match Operation.ofKeyword? keyword with
  | some operation => .ok operation
  | none => .error (.unknownOperation keyword)

/-- The first entry of a document that defines an object of the given name, or extends one. -/
def findObject? (document : Document) (name : Name) (isExtension : Bool) :
    Option (Nat × TypeDefinition) :=
  document.zipIdx.findSome? fun (definition, position) =>
    match definition.type? with
    | some found =>
      if found.kind = .object ∧ found.name = name ∧ found.isExtension = isExtension then
        some (position, found)
      else none
    | none => none

/-- The root type of an operation: its definition, or else its first extension. -/
def findRoot? (document : Document) (operation : Operation) : Option (Nat × TypeDefinition) :=
  let name := rootName document operation
  findObject? document name false <|> findObject? document name true

end SelectionGen.Schema
