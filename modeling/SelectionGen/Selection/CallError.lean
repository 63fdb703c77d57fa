import SelectionGen.Selection.Store
import SelectionGen.Text.Printable

/-! Why calls fail, and what they leave behind. -/
namespace SelectionGen

/-- Members of a class that keep it from being defined. -/
inductive ClassFault
  | slots
  | qualifiedName
  | classCell
deriving DecidableEq, Repr

namespace ClassFault

/-- The member that has another meaning in the definition of a class than that of an accessor. -/
def memberName : ClassFault → String
  | slots => "__slots__"
  | qualifiedName => "__qualname__"
  | classCell => "__classcell__"

def message : ClassFault → String
  | slots => "'function' object is not iterable"
  | qualifiedName => "type __qualname__ must be a str, not function"
  | classCell => "__classcell__ must be a nonlocal cell, not <class 'function'>"

end ClassFault

/-- Why a call or the loading of a package fails. -/
inductive CallError
  | missingMember (owner name : String)
  | missingTypeMember (owner name : String)
  | undefinable (fault : ClassFault)
  | notCallable (typeName : String)
  | tooManyArguments (method : String) (accepted given : Nat)
  | missingBlock (method : String)
  | misused (explanation : String)
  | unboundName (name : String)
  | unknownVariable (name : String)
  | descriptionNotText (className : String)
  | truthNotBoolean (className : String)
  | sizeNotNumber (className : String)
  | endless
  | raised (typeName message : String)
deriving DecidableEq, Repr

namespace CallError

/-- The type of what is raised. -/
def typeName : CallError → String
  | missingMember .. | missingTypeMember .. => "AttributeError"
  | unboundName _ => "NameError"
  | unknownVariable _ => "KeyError"
  | endless => "RecursionError"
  | raised typeName _ => typeName
  | _ => "TypeError"

def message : CallError → String
  | missingMember owner name => "'" ++ owner ++ "' object has no attribute '" ++ name ++ "'"
  | missingTypeMember owner name =>
    "type object '" ++ owner ++ "' has no attribute '" ++ name ++ "'"
  | undefinable fault => fault.message
  | notCallable typeName => "'" ++ typeName ++ "' object is not callable"
  | tooManyArguments method accepted given =>
    method ++ "() takes " ++ toString accepted ++ " positional argument"
      ++ (if accepted = 1 then "" else "s") ++ " but " ++ toString given ++ " were given"
  | missingBlock method => method ++ "() missing 1 required positional argument: 'init_block'"
  | misused explanation => explanation
  | unboundName name => "name '" ++ name ++ "' is not defined"
  | unknownVariable name => Text.quoted name
  | descriptionNotText className =>
    "__repr__ returned non-string (type " ++ className ++ ")"
  | truthNotBoolean className => "__bool__ should return bool, returned " ++ className
  | sizeNotNumber className => "'" ++ className ++ "' object cannot be interpreted as an integer"
  | endless => "maximum recursion depth exceeded"
  | raised _ message => message

end CallError

/-- A call changes the store whether it succeeds or not. -/
abbrev Called (α : Type) := Except CallError α × Store

/-- A result that leaves the store as it is. -/
def Called.keep (result : Except CallError α) (store : Store) : Called α := (result, store)

/-- Goes on with a result, if there is one. -/
def Called.andThen (called : Called α) (next : α → Store → Called β) : Called β :=
  match called with
  | (.ok value, store) => next value store
  | (.error error, store) => (.error error, store)

end SelectionGen
