/-! Projections: the classes to be generated, as data. An accessor either selects a field without going
below it, or goes on in the projection of another class. Nothing here depends on how classes are
written. -/
namespace SelectionGen

/-- A class by its package and name. -/
structure ClassRef where
  package : String
  name : String
deriving DecidableEq, Repr

/-- The name with its package in front, if there is one. -/
def ClassRef.qualifiedName (reference : ClassRef) : String :=
  if reference.package = "" then reference.name else reference.package ++ "." ++ reference.name

/-- The module that generated code finds its base class in. -/
def supportModule : String := "gql_projgen.core.projection"

/-- What all generated classes inherit from. -/
def baseProjection : ClassRef := ⟨supportModule, "BaseProjectionNode"⟩

/-- The decorator of all generated classes. -/
def dslContext : ClassRef := ⟨supportModule, "dsl_context"⟩

/-- What an accessor does with its field. -/
inductive Selector
  | leaf
  | composite (sub : ClassRef)
deriving DecidableEq, Repr

/-- The class a selection goes on in. -/
def Selector.sub? : Selector → Option ClassRef
  | leaf => none
  | composite sub => some sub

/-- One accessor of a projection: its name in the class, and the field it records. -/
structure Accessor where
  name : String
  fieldName : String
  selector : Selector
  description : Option String := none
deriving DecidableEq, Repr

namespace Accessor

def isComposite (accessor : Accessor) : Bool := accessor.selector.sub?.isSome

/-- The parameter through which a composite accessor takes what to select below. -/
def parameterName? (accessor : Accessor) : Option String :=
  if accessor.isComposite then some "init_block" else none

end Accessor

/-- A class to be generated. -/
structure Projection where
  classRef : ClassRef
  sourceType : String
  accessors : List Accessor := []
  description : Option String := none
  isRoot : Bool := false
  baseClass : ClassRef := baseProjection
  decorators : List ClassRef := [dslContext]
deriving DecidableEq, Repr

namespace Projection

def name (projection : Projection) : String := projection.classRef.name

def package (projection : Projection) : String := projection.classRef.package

def accessor? (projection : Projection) (name : String) : Option Accessor :=
  projection.accessors.find? fun accessor => accessor.name == name

def leafAccessors (projection : Projection) : List Accessor :=
  projection.accessors.filter fun accessor => !accessor.isComposite

def compositeAccessors (projection : Projection) : List Accessor :=
  projection.accessors.filter Accessor.isComposite

/-- The classes that composite accessors go on in, each once, in the order of first use. -/
def referencedClasses (projection : Projection) : List ClassRef :=
  (projection.accessors.filterMap fun accessor => accessor.selector.sub?).eraseDups

end Projection

/-- The classes of one run: the entry points, and the projections reached from them. -/
structure Api where
  queryTypes : List Projection := []
  clientProjections : List Projection := []
deriving DecidableEq, Repr

namespace Api

/-- The classes of both, those of the first in front. Nothing is dropped. -/
def merge (first second : Api) : Api where
  queryTypes := first.queryTypes ++ second.queryTypes
  clientProjections := first.clientProjections ++ second.clientProjections

def isEmpty (api : Api) : Bool := api.queryTypes.isEmpty && api.clientProjections.isEmpty

def projection? (api : Api) (name : String) : Option Projection :=
  api.clientProjections.find? fun projection => projection.name == name

end Api

end SelectionGen
