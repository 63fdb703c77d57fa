import SelectionGen.Evaluation.Value
import SelectionGen.Selection.CallError
import SelectionGen.Selection.Program

/-! The memory of code that runs, and what running is. A run gives a value or is interrupted, and what it has
changed in memory stays either way. What one step of a run needs of others it asks for as a task. -/
namespace SelectionGen.Evaluation

open Target

/-- Why a run is interrupted: something was raised, or a statement leads elsewhere. `enough` stops a generator
that goes on for long, `unknown` a run that comes to what is not looked into. -/
inductive Interruption
  | raised (exception : Value)
  | returned (value : Value)
  | left
  | continued
  | enough
  | unknown
deriving Inhabited

/-- Projection objects, cells, the modules that have begun to load and those of them that have not ended,
how many calls are under way, what is being handled, what the generators that run have given so far, the
latest first each, and the collections that are being written out. -/
structure Memory where
  store : Store := {}
  cells : Array Cell := #[]
  modules : List (String × Value) := []
  beginning : List String := []
  depth : Nat := 0
  handled : List Value := []
  given : List (List Value) := []
  describing : List CellId := []

instance : Inhabited Memory := ⟨{}⟩

/-- What a step of a run can ask for. -/
inductive Task
  | evaluate (scope : Scope) (expression : Target.Expression)
  | run (scope : Scope) (body : List Statement)
  | call (function : Value) (arguments : List Value) (named : List (String × Value))
  | describe (value : Value)
  | equal (left right : Value)
  | next (source : Value)

/-- What a run takes place in: the modules to load, and how tasks are performed. -/
structure Context where
  program : Program
  perform : Task → ExceptT Interruption (StateM Memory) Value

/-- A run that gives something. -/
abbrev Evaluated := ReaderT Context (ExceptT Interruption (StateM Memory))

def perform (task : Task) : Evaluated Value := fun context => context.perform task

/-- Stops where what happens is not known. -/
def giveUp : Evaluated α := throw .unknown

/-- A new cell. -/
def allocate (cell : Cell) : Evaluated Value := do
  let memory ← get
  set { memory with cells := memory.cells.push cell }
  return .cell memory.cells.size

/-- A new cell by its place. -/
def allocateId (cell : Cell) : Evaluated CellId := do
  let memory ← get
  set { memory with cells := memory.cells.push cell }
  return memory.cells.size

def cell? (id : CellId) : Evaluated (Option Cell) := do return (← get).cells[id]?

/-- What a value is a place of. -/
def cellOf? (value : Value) : Evaluated (Option Cell) := do
  match value with
  | .cell id => cell? id
  | _ => return none

def setCell (id : CellId) (cell : Cell) : Evaluated Unit :=
  modify fun memory => { memory with cells := memory.cells.setIfInBounds id cell }

/-- The entries of a mapping: a cell, or what a projection object knows. -/
def entries (mapping : Value) : Evaluated (List (Value × Value)) := do
  match mapping with
  | .cell id =>
    match ← cell? id with
    | some (.mapping entries) => return entries
    | _ => return []
  | .state id =>
    return if ((← get).store.object? id).all ProjectionObject.isBare then []
      else [(.text "fields", .fields id)]
  | .fields id =>
    let fields := (((← get).store.object? id).map ProjectionObject.fields).getD []
    return fields.map fun (name, below?) => (.text name, (below?.map .object).getD .nothing)
  | _ => return []

/-- A new thing of a type. -/
def allocateThing (type : Value) (payload : Value) (details : List (String × Value)) :
    Evaluated Value := do
  let attributes ← allocateId (.mapping [])
  allocate (.thing ⟨type, attributes, payload, details⟩)

/-- Raises something of a type, with arguments and details. -/
def raiseWith (typeName : String) (arguments : List Value) (details : List (String × Value)) :
    Evaluated α := do
  throw (.raised (← allocateThing (.type typeName) (.tuple arguments) details))

/-- Raises something of a type that says why. -/
def raise (typeName message : String) : Evaluated α := raiseWith typeName [.text message] []

/-- Raises that a value is of no use here. -/
def refuse (message : String) : Evaluated α := raise "TypeError" message

/-- Does what is to be done with a projection object. -/
def onStore (action : Store → Called α) : Evaluated α := do
  let memory ← get
  let (outcome, store) := action memory.store
  set { memory with store }
  match outcome with
  | .ok value => return value
  | .error error => raise error.typeName error.message

/-- Repeats a step until it gives something, a limited number of times. -/
def repeatUpTo : Nat → Evaluated (Option α) → Evaluated α
  | 0, _ => giveUp
  | count + 1, step => fun context memory =>
    match step context memory with
    | (.ok (some value), memory) => (.ok value, memory)
    | (.ok none, memory) => repeatUpTo count step context memory
    | (.error interruption, memory) => (.error interruption, memory)

/-- How often a loop is repeated at most. -/
def loopLimit : Nat := 1000000

/-- Repeats a step until it gives something. -/
def repeatUntil (step : Evaluated (Option α)) : Evaluated α := repeatUpTo loopLimit step

end SelectionGen.Evaluation
