import SelectionGen.Evaluation.Statement

/-! A session with generated classes: objects are made and kept under names, chains of calls start from
them, and queries are written. A name that nothing is kept under stands for no object at all. -/
namespace SelectionGen

/-- The memory of a session and the names of some of its values, the latest first. -/
structure Session where
  memory : Evaluation.Memory := {}
  bindings : List (String × Value) := []

/-- What is said about a new object: what its package exports, the object as code would spell it, and the text
that documents its class. -/
structure Introduction where
  exports : List String
  description : String
  documentation : Option String

namespace Session

open Evaluation

def value (session : Session) (name : String) : Value :=
  (session.bindings.lookup name).getD .nothing

def keepAs (session : Session) (name : String) (value : Value) : Session :=
  { session with bindings := (name, value) :: session.bindings }

/-- What evaluating something gives, or why it fails in the words of what is raised. -/
def outcomeOf (action : Evaluated α) : Evaluated (Except CallError α) :=
  tryCatch (.ok <$> action) fun interruption => do
    match interruption with
    | .raised exception =>
      return .error (.raised (← typeName exception) (← textOf exception))
    | other => throw other

/-- Evaluates something in a session. What comes to something that is not known fails without words. -/
def perform (program : Program) (action : Evaluated α) (session : Session) : Except CallError α × Session :=
  let (outcome, memory) := evaluateIn program (outcomeOf action) session.memory
  let session := { session with memory := { memory with depth := 0, handled := [], given := [], describing := [] } }
  match outcome with
  | .ok result => (result, session)
  | .error _ => (.error (.raised "RuntimeError" ""), session)

/-- The text of a value, or nothing if it is no text. -/
def textIn (value : Value) : Option String := value.text?

/-- What is said about a new object of a class that a package knows by a name. -/
def introduction (package : Value) (type object : Value) : Evaluated Introduction := do
  let exports ← elementsOf (← memberOf package "__all__")
  let description ← describe object
  let documentation ← memberOf type "__doc__"
  let _ ← memberOf (← typeOf object) Program.markName
  return ⟨exports.filterMap textIn, description, textIn documentation⟩

/-- Makes an object of a class that a package knows and keeps it. -/
def introduce (program : Program) (package className variableName : String) (session : Session) :
    Except CallError Introduction × Session :=
  let making : Evaluated (Value × Value × Value) := do
    let module ← Importing.load package
    let found ← memberOf module className
    return (module, found, ← Evaluation.perform (.call found [] []))
  match session.perform program making with
  | (.error error, session) => (.error error, session)
  | (.ok (module, found, object), session) =>
    (session.keepAs variableName object).perform program (introduction module found object)

/-- What is said about a chain: what it ends at, and what is then selected where it began. -/
structure Report where
  ending : Except CallError String
  selected : Option String

/-- The member that every projection inherits and that writes its selection out. -/
def serializeName : String := "serialize"

/-- What is selected by a value, if it is anything. -/
def selected (value : Value) : Evaluated (Option String) := do
  if ← truthOf value then return some (← textOf (← callNamed value serializeName none)) else return none

/-- Follows a chain from a kept object and describes what it ends at, which can be kept as well. The
session breaks off if the object cannot be written out afterwards. -/
def followFrom (program : Program) (variableName : String) (chain : Chain)
    (keptAs : Option String) (session : Session) : Except CallError (Report × Session) :=
  let start := session.value variableName
  let report (ending : Except CallError String) (session : Session) :
      Except CallError (Report × Session) :=
    let (found, session) := session.perform program (selected start)
    found.map fun selected => (⟨ending, selected⟩, session)
  match session.perform program (follow chain start) with
  | (.error error, session) => report (.error error) session
  | (.ok value, session) =>
    let (ending, session) := session.perform program (describe value)
    report ending (match keptAs with
      | some name => session.keepAs name value
      | none => session)

/-- The query that a kept object selects. Here the name has to be known. -/
def query (program : Program) (variableName operation : String) (name : Option String)
    (session : Session) : Except CallError String × Session :=
  match session.bindings.lookup variableName with
  | some value =>
    session.perform program do
      return queryText operation name (← textOf (← callNamed value serializeName none))
  | none => (.error (.unknownVariable variableName), session)

end Session

end SelectionGen
