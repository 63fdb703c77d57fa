import SelectionGen.Selection.Tree

/-! Projection objects while selections are made. An object knows its class and the fields recorded on it,
each with the object below it, if there is one. Objects are shared, not copied: what is recorded later
on an object shows wherever that object was recorded. -/
namespace SelectionGen

/-- An object is known by its place in the store. -/
abbrev ObjectId := Nat

/-- A class by the module that defines it and its name. -/
structure ClassKey where
  moduleName : String := ""
  name : String
deriving DecidableEq, Repr

/-- An object: its class and its fields, in the order in which they were first recorded. A bare object has
lost what holds its fields. -/
structure ProjectionObject where
  classKey : ClassKey
  fields : List (String × Option ObjectId) := []
  isBare : Bool := false
deriving DecidableEq, Repr

/-- All objects made so far. -/
structure Store where
  objects : List ProjectionObject := []
deriving DecidableEq, Repr

namespace ProjectionObject

/-- Records a field. One that is recorded already keeps its place. -/
def record (object : ProjectionObject) (field : String) (below : Option ObjectId) :
    ProjectionObject :=
  if object.fields.any fun (other, _) => other == field then
    { object with fields := object.fields.map fun (other, old) =>
        if other = field then (other, below) else (other, old) }
  else { object with fields := object.fields ++ [(field, below)] }

/-- Takes a field back, if it is recorded. -/
def remove? (object : ProjectionObject) (field : String) : Option ProjectionObject :=
  if object.fields.any fun (other, _) => other == field then
    some { object with fields := object.fields.filter fun (other, _) => other != field }
  else none

end ProjectionObject

namespace Store

def object? (store : Store) (id : ObjectId) : Option ProjectionObject := store.objects[id]?

/-- A new object without fields. -/
def create (store : Store) (key : ClassKey) : ObjectId × Store :=
  (store.objects.length, ⟨store.objects ++ [{ classKey := key }]⟩)

/-- The store with one object changed. -/
def update (store : Store) (id : ObjectId) (change : ProjectionObject → ProjectionObject) : Store :=
  ⟨store.objects.modify id change⟩

def record (store : Store) (id : ObjectId) (field : String) (below : Option ObjectId) : Store :=
  store.update id fun object => object.record field below

/-- The fields of an object as a selection, given how to read the objects below. -/
def selectionOfFields? (read : ObjectId → Option Selection) :
    List (String × Option ObjectId) → Option Selection
  | [] => some .nil
  | (field, none) :: rest => do return .leaf field (← selectionOfFields? read rest)
  | (field, some below) :: rest => do
    return .nest field (← read below) (← selectionOfFields? read rest)

/-- What is selected on an object, as far as the given depth. -/
def selectionUpTo? (store : Store) : Nat → ObjectId → Option Selection
  | 0, _ => none
  | depth + 1, id => do
    selectionOfFields? (store.selectionUpTo? depth) (← store.object? id).fields

/-- What is selected on an object; nothing if the objects below lead back to it. No chain of distinct
objects is longer than the store. -/
def selection? (store : Store) (id : ObjectId) : Option Selection :=
  store.selectionUpTo? store.objects.length id

/-- What is said of an object that the objects below lead back to, when it is written out alone. -/
def endlessMessage : String := "maximum recursion depth exceeded while calling a Python object"

/-- What is selected on an object, written out. -/
def serialize? (store : Store) (id : ObjectId) : Option String :=
  (store.selection? id).map Selection.serialize

/-- An object as messages show it: its class and what is selected. -/
def describe? (store : Store) (id : ObjectId) : Option String := do
  return (← store.object? id).classKey.name ++ "(" ++ (← store.serialize? id) ++ ")"

end Store

end SelectionGen
