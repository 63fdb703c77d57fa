import SelectionGen.Evaluation.Builtin
import SelectionGen.Evaluation.Value
import SelectionGen.Selection.Objects

/-! Members of projection objects. A leaf records its field and gives back the object itself. A composite
makes a new object, records it and only then runs the block on it, so whatever a block did before it
failed stays recorded. Beside its accessors an object has what all projections inherit, what holds data,
and what all values have. -/
namespace SelectionGen

open Target

/-- What a call of a member gives at first: a new object that a block is still to be run on, a value, or
nothing yet because all values have a member of that name. -/
inductive Reached
  | below (id : ObjectId)
  | value (value : Value)
  | common

namespace Program

/-- A class is marked behind its definition, so an accessor of that name is out of reach. -/
def markName : String := "__dsl_context__"

/-- The member of an object that holds what is recorded on it. -/
def fieldsName : String := "fields"

/-- Names under which an accessor belongs to the class and not to its objects, so that it has nothing to
record on. -/
def belongsToClass (name : String) : Bool := ["__init_subclass__", "__class_getitem__"].contains name

/-- What keeps a class from being defined. -/
def classFault? (declaration : ClassDeclaration) : Option CallError :=
  ([.slots, .qualifiedName, .classCell].find? fun (fault : ClassFault) =>
    (method? declaration fault.memberName).isSome).map .undefinable

/-- What a name that reaches nothing does. A class may define an accessor that is used instead; it is
called with the name where the block should be. -/
def callMissing (program : Program) (id : ObjectId) (key : ClassKey) (name : String) (store : Store) :
    Called α :=
  match program.accessor? key "__getattr__" with
  | none => Called.keep (.error (.missingMember key.name name)) store
  | some ⟨shown, _, .leaf, _⟩ =>
    Called.keep (.error (.tooManyArguments (methodName key shown) 1 2)) store
  | some ⟨_, fieldName, .composite localClass, _⟩ =>
    (program.instantiateBelow key localClass store).andThen fun below store =>
      Called.keep (.error (.notCallable "str")) (store.record id fieldName (some below))

/-- The members of an object that are no methods, by the types of what they hold. An object that a class
compares in its own way has no number that stands for it. -/
def dataMember? (declaration? : Option ClassDeclaration) (name : String) : Option String :=
  match name with
  | "fields" | "__dict__" => some "dict"
  | "__dsl_context__" => some "bool"
  | "__hash__" =>
    if (declaration?.bind fun declaration => method? declaration "__eq__").isSome then some "NoneType"
    else none
  | "__module__" => some "str"
  | "__weakref__" => some "NoneType"
  | "__doc__" =>
    some (if (declaration?.bind ClassDeclaration.description).isSome then "str" else "NoneType")
  | _ => none

/-- Why no member of a name can be called, whatever the class declares: members that hold data hide
accessors of their name. -/
def memberFault? (program : Program) (id : ObjectId) (key : ClassKey) (name : String) (store : Store) :
    Option CallError :=
  match program.accessFault? key with
  | some fault => some fault
  | none =>
    if name = fieldsName then
      ((store.object? id).bind program.bareFault?).or (some (.notCallable "dict"))
    else if name = markName then some (.notCallable "bool")
    else none

/-- Records a field on an object that has what holds its fields. -/
def recordOn (program : Program) (id : ObjectId) (field : String) (below : Option ObjectId)
    (store : Store) : Called Unit :=
  match (store.object? id).bind program.bareFault? with
  | some fault => Called.keep (.error fault) store
  | none => Called.keep (.ok ()) (store.record id field below)

/-- The names of the members of an object, in the order in which they are found: what it knows, what its
class defines, what projections inherit, and what all values have. -/
def memberNames (program : Program) (key : ClassKey) (isBare : Bool) (common : List String) :
    List String :=
  let declaration? := program.class? key
  let methods := ((declaration?.map ClassDeclaration.methods).getD []).map fun method =>
    outerName key.name method.name
  let documented := ((declaration?.bind ClassDeclaration.description).map fun _ => "__doc__").toList
  let comparing := if methods.contains "__eq__" ∧ ¬methods.contains "__hash__" then ["__hash__"] else []
  ((if isBare then [] else [fieldsName]) ++ ["__module__"] ++ documented ++ methods ++ ["__doc__"]
    ++ comparing ++ [markName, "__init__", "serialize", "__repr__", "__dict__", "__weakref__"]
    ++ common).eraseDups

/-- What a member that projections inherit gives when it is called without arguments. Making an object anew
takes back what is recorded on it. -/
def callInherited? (program : Program) (id : ObjectId) (key : ClassKey) (name : String)
    (store : Store) : Option (Called Reached) :=
  let shown (text : Called String) : Called Reached :=
    text.andThen fun text store => Called.keep (.ok (.value (.text text))) store
  match name with
  | "serialize" => some (shown (Called.keep (program.serialized store id) store))
  | "__init__" =>
    some (Called.keep (.ok (.value .nothing))
      (store.update id fun object => { object with fields := [], isBare := false }))
  | "__class__" =>
    some ((program.instantiate key store).andThen fun made store =>
      Called.keep (.ok (.value (.object made))) store)
  | "__str__" | "__repr__" => some (shown (program.describeObject id store))
  | "__getstate__" =>
    let isBare := ((store.object? id).map ProjectionObject.isBare).getD true
    some (Called.keep (.ok (.value (if isBare then .nothing else .state id))) store)
  | _ => none

/-- Calls a member of an object without arguments. -/
def callMember (program : Program) (id : ObjectId) (key : ClassKey) (name : String) (store : Store) :
    Called Reached :=
  match program.memberFault? id key name store with
  | some fault => Called.keep (.error fault) store
  | none =>
    match program.accessor? key name with
    | some ⟨shown, fieldName, body, _⟩ =>
      match body with
      | .leaf =>
        if belongsToClass shown then
          Called.keep (.error (.missingTypeMember key.name fieldsName)) store
        else
          (program.recordOn id fieldName none store).andThen fun () store =>
            Called.keep (.ok (.value (.object id))) store
      | .composite _ => Called.keep (.error (.missingBlock (methodName key shown))) store
    | none =>
      match program.callInherited? id key name store, dataMember? (program.class? key) name with
      | some called, _ => called
      | none, some typeName => Called.keep (.error (.notCallable typeName)) store
      | none, none =>
        if (Evaluation.BuiltinType.ownMember? "object" name).isSome then
          Called.keep (.ok .common) store
        else program.callMissing id key name store

/-- Why a member that projections inherit refuses a block, if it does. -/
def blockRefusal? (name : String) : Option CallError :=
  let refused (method : String) := CallError.tooManyArguments (baseProjection.name ++ "." ++ method) 1 2
  match name with
  | "serialize" | "__init__" | "__repr__" => some (refused name)
  | "__class__" => some (refused "__init__")
  | _ => none

/-- Calls a member of an object with a block: the object to run the block on, made and recorded. -/
def openMember (program : Program) (id : ObjectId) (key : ClassKey) (name : String) (store : Store) :
    Called Reached :=
  match program.memberFault? id key name store with
  | some fault => Called.keep (.error fault) store
  | none =>
    match program.accessor? key name with
    | some ⟨shown, fieldName, body, _⟩ =>
      match body with
      | .leaf => Called.keep (.error (.tooManyArguments (methodName key shown) 1 2)) store
      | .composite localClass =>
        (program.instantiateBelow key localClass store).andThen fun below store =>
          if belongsToClass shown then
            Called.keep (.error (.missingTypeMember key.name fieldsName)) store
          else
            (program.recordOn id fieldName (some below) store).andThen fun () store =>
              Called.keep (.ok (.below below)) store
    | none =>
      match blockRefusal? name, dataMember? (program.class? key) name with
      | some refusal, _ => Called.keep (.error refusal) store
      | none, some typeName => Called.keep (.error (.notCallable typeName)) store
      | none, none =>
        if (Evaluation.BuiltinType.ownMember? "object" name).isSome then
          Called.keep (.ok .common) store
        else program.callMissing id key name store

end Program

end SelectionGen
