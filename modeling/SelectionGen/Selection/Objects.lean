import SelectionGen.Selection.CallError
import SelectionGen.Selection.Program

/-! Projection objects as code sees them: how they are made, written out, described and asked whether they
are anything. A class may define members that take part in this, and its accessors do not do what these
have to, so each of them is a way to fail. -/
namespace SelectionGen

open Target

namespace Program

/-- A method by the name that messages use. -/
def methodName (key : ClassKey) (name : String) : String := key.name ++ "." ++ name

/-- The accessor that a name reaches on objects of a class. -/
def accessor? (program : Program) (key : ClassKey) (name : String) : Option Method :=
  (program.class? key).bind fun declaration => method? declaration name

/-- Why an accessor fails to record on an object that is not made yet. A class may have accessors that
members are looked up with; one that goes on in another object looks up members itself. -/
def unmadeFault (program : Program) (key : ClassKey) : CallError :=
  match (program.accessor? key "__getattribute__").or (program.accessor? key "__getattr__") with
  | none => .missingMember key.name "fields"
  | some ⟨shown, _, .leaf, _⟩ => .tooManyArguments (methodName key shown) 1 2
  | some _ => .endless

/-- What keeps objects of a class from being made. -/
def creationFault? (program : Program) (key : ClassKey) : Option CallError :=
  let find (name : String) := program.accessor? key name
  match find "__new__", find "__init__", find "__setattr__" with
  | some ⟨_, _, .leaf, _⟩, _, _ => some (.missingTypeMember key.name "fields")
  | some _, _, _ => some (.missingBlock (methodName key "__new__"))
  | none, some ⟨_, _, .leaf, _⟩, _ => some (program.unmadeFault key)
  | none, some _, _ => some (.missingBlock (methodName key "__init__"))
  | none, none, some ⟨_, _, .leaf, _⟩ =>
    some (.tooManyArguments (methodName key "__setattr__") 1 3)
  | none, none, some _ => some (.tooManyArguments (methodName key "__setattr__") 2 3)
  | none, none, none => none

/-- Makes an object of a class. -/
def instantiate (program : Program) (key : ClassKey) (store : Store) : Called ObjectId :=
  match program.creationFault? key with
  | some fault => Called.keep (.error fault) store
  | none =>
    let (id, store) := store.create key
    Called.keep (.ok id) store

/-- The class that a method goes on in, by the name its module binds. -/
def classBelow (program : Program) (owner : ClassKey) (localClass : String) :
    Except CallError ClassKey :=
  let name := outerName owner.name localClass
  match program.binding? owner.moduleName name with
  | some found => .ok found
  | none => .error (.unboundName name)

/-- The object that a method goes on in. -/
def instantiateBelow (program : Program) (owner : ClassKey) (localClass : String) (store : Store) :
    Called ObjectId :=
  match program.classBelow owner localClass with
  | .error error => Called.keep (.error error) store
  | .ok key => program.instantiate key store

/-- What keeps code from any member of an object. The class then has an accessor that all members are
looked up with; one that goes on in another object looks up members itself, and so without an end. -/
def accessFault? (program : Program) (key : ClassKey) : Option CallError :=
  match program.accessor? key "__getattribute__" with
  | none => none
  | some ⟨shown, _, .leaf, _⟩ => some (.tooManyArguments (methodName key shown) 1 2)
  | some ⟨_, _, .composite localClass, _⟩ =>
    match program.classBelow key localClass with
    | .error error => some error
    | .ok below => some ((program.creationFault? below).getD .endless)

/-- Why nothing can be recorded on an object or read from it: it has lost what holds its fields. -/
def bareFault? (program : Program) (object : ProjectionObject) : Option CallError :=
  if object.isBare then some (program.unmadeFault object.classKey) else none

/-- The first fault that is met when an object is written out, as far as the given depth. -/
def writingFaultUpTo? (program : Program) (store : Store) : Nat → ObjectId → Option CallError
  | 0, _ => some .endless
  | depth + 1, id =>
    match store.object? id with
    | none => some .endless
    | some object =>
      ((program.accessFault? object.classKey).or (program.bareFault? object)).or
        (object.fields.findSome? fun (_, below?) =>
          below?.bind (program.writingFaultUpTo? store depth))

/-- What is selected on an object, written out. -/
def serialized (program : Program) (store : Store) (id : ObjectId) : Except CallError String :=
  match store.serialize? id with
  | some text =>
    match program.writingFaultUpTo? store store.objects.length id with
    | some fault => .error fault
    | none => .ok text
  | none =>
    .error ((program.writingFaultUpTo? store store.objects.length id).getD .endless)

/-- An object as messages show it. -/
def describeObject (program : Program) (id : ObjectId) (store : Store) : Called String :=
  match store.object? id with
  | none => Called.keep (.error .endless) store
  | some object =>
    let key := object.classKey
    match program.accessor? key "__repr__" with
    | some ⟨_, fieldName, .leaf, _⟩ =>
      match program.accessFault? key with
      | some fault => Called.keep (.error fault) store
      | none => Called.keep (.error (.descriptionNotText key.name)) (store.record id fieldName none)
    | some _ => Called.keep (.error (.missingBlock (methodName key "__repr__"))) store
    | none =>
      Called.keep ((program.serialized store id).map fun text => key.name ++ "(" ++ text ++ ")") store

/-- Whether an object is anything. A class may define a member that says so for its objects, or one that gives
their size. -/
def isAnything (program : Program) (key : ClassKey) : Except CallError Bool :=
  match program.accessor? key "__bool__", program.accessor? key "__len__" with
  | some ⟨_, _, .leaf, _⟩, _ => .error ((program.accessFault? key).getD (.truthNotBoolean key.name))
  | some _, _ => .error (.missingBlock (methodName key "__bool__"))
  | none, some ⟨_, _, .leaf, _⟩ =>
    .error ((program.accessFault? key).getD (.sizeNotNumber key.name))
  | none, some _ => .error (.missingBlock (methodName key "__len__"))
  | none, none => .ok true

end Program

end SelectionGen
