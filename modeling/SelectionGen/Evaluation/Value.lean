import SelectionGen.Selection.Chain
import SelectionGen.Selection.Store
import SelectionGen.Target.Code

/-! Values of code that runs. A value without an identity of its own is written out; everything that can
change is a cell of memory and known by its place there. Types and functions that are built in are known
by their names. -/
namespace SelectionGen

/-- A cell is known by its place in memory. -/
abbrev CellId := Nat

/-- The sides from which the entries of a mapping are looked at. -/
inductive ViewKind
  | keys
  | values
  | entries
deriving DecidableEq, Repr

/-- What an expression can give. `undecided` says that a comparison has no answer; `state` and `fields` are
the mappings that hold what a projection object knows and what is recorded on it; `foreign` is a part of
a library that is not looked into, by the name of its type and its own. -/
inductive Value
  | nothing
  | undecided
  | ellipsis
  | truth (value : Bool)
  | whole (value : Int)
  | real (value : Float)
  | complex (real imaginary : Float)
  | text (value : String)
  | bytes (values : List UInt8)
  | tuple (elements : List Value)
  | range (first last step : Int)
  | slice (first last step : Value)
  | type (name : String)
  | builtin (name : String)
  | member (typeName name : String)
  | bound (function owner : Value)
  | view (kind : ViewKind) (mapping : Value)
  | cell (id : CellId)
  | projectionType (key : ClassKey)
  | object (id : ObjectId)
  | state (id : ObjectId)
  | fields (id : ObjectId)
  | block (block : Block)
  | foreign (typeName name : String)

instance : Inhabited Value := ⟨.nothing⟩

namespace Evaluation

open Target

/-- Where the names of a block are kept: with the module, in a frame of their own, or with the members of a
type that is being defined. -/
inductive Place
  | module
  | frame (id : CellId)
  | members (id : CellId)
deriving DecidableEq, Repr

/-- What names mean in a block: the names of the module, those of the block itself, the frames around from
the innermost on, the names that the block binds, and those that belong to the module whatever the frames
hold. Names are private to the class they are used in; `path` leads to what is defined in the block, and
`subject` is the first parameter of a function. Types that are texts are left unread. A loop within an
expression knows the block `around` it, which what is bound on the way belongs to. -/
structure Scope where
  globals : CellId
  place : Place := .module
  outer : List CellId := []
  names : List String := []
  globalNames : List String := []
  className : Option String := none
  path : String := ""
  subject : Option String := none
  hasTextTypes : Bool := false
  around : Option Scope := none

/-- How the body of a function is run: at once, or bit by bit, or when it is waited for. -/
inductive FunctionKind
  | plain
  | generator
  | coroutine
  | asyncGenerator
deriving DecidableEq, Repr

/-- A function with the scope that its body is run in, once there is a frame for it, and the values of the
arguments that need not be given. -/
structure Function where
  name : String
  path : String
  kind : FunctionKind
  parameters : Parameters
  body : List Statement
  scope : Scope
  defaults : List (String × Value)
  documentation : Value
  moduleName : Value
  notes : CellId
  attributes : CellId

/-- A type that is defined by code: what it derives from, the types that a member is looked up in, one
behind the other, its own members, and the type that it is a thing of itself. -/
structure TypeDefinition where
  name : String
  path : String
  bases : List Value
  order : List Value
  members : CellId
  kind : Value

/-- A thing of a type, what is known of it by name, and the value of a built-in type that it is at the same
time. What was raised has its arguments as that value and details beside it. -/
structure Instance where
  type : Value
  attributes : CellId
  payload : Value := .nothing
  details : List (String × Value) := []

/-- What is still to come. Elements are found by their place, so that changes show; entries are counted, so
that changes are noticed. -/
inductive Source
  | elements (typeName : String) (sequence : Value) (next : Nat)
  | backwards (typeName : String) (sequence : Value) (left : Nat)
  | remaining (typeName : String) (values : List Value)
  | entries (kind : ViewKind) (mapping : Value) (next size : Nat)
  | mapped (function : Value) (sources : List Value)
  | filtered (condition source : Value)
  | zipped (isStrict : Bool) (sources : List Value)
  | numbered (source : Value) (count : Int)
  | called (function sentinel : Value)
  | indexed (sequence : Value) (next : Int)

/-- How a run of a generator ends behind what it gives. -/
inductive Ending
  | returned (value : Value)
  | raised (exception : Value)
  | open
deriving Inhabited

/-- How far a generator is. -/
inductive Progress
  | waiting (scope : Scope) (body : List Statement)
  | running
  | giving (values : List Value) (ending : Ending)

structure Generator where
  typeName : String
  name : String
  path : String
  progress : Progress

/-- What a place of memory holds. -/
inductive Cell
  | list (elements : List Value)
  | mapping (entries : List (Value × Value))
  | set (isFixed : Bool) (elements : List Value)
  | byteArray (values : List UInt8)
  | frame (names : List (String × Option Value))
  | function (function : Function)
  | type (definition : TypeDefinition)
  | thing (found : Instance)
  | module (name : String) (members : CellId)
  | source (source : Source)
  | generator (generator : Generator)
  | property (getter setter deleter documentation : Value)
  | wrapper (typeName : String) (function : Value)
  | parent (type owner : Value)

instance : Inhabited Cell := ⟨.list []⟩

end Evaluation

end SelectionGen
