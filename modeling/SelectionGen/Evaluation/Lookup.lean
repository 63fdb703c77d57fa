import SelectionGen.Evaluation.DataMember
import SelectionGen.Selection.Members

/-! How a name reaches a member of a value: first members of its type that hold data or look after
themselves, then what the value knows by that name, then the other members of its type, bound to the
value. A type looks into the types that it derives from, and is bound to nothing. -/
namespace SelectionGen.Evaluation

open Target

/-- Built-in members that belong to the type and not to its values. -/
def typeLevelMembers : List (String × String) :=
  [("bytes", "fromhex"), ("bytearray", "fromhex"), ("int", "from_bytes"), ("float", "fromhex"),
    ("float", "__getformat__"), ("dict", "fromkeys"), ("list", "__class_getitem__"),
    ("tuple", "__class_getitem__"), ("dict", "__class_getitem__"), ("set", "__class_getitem__"),
    ("frozenset", "__class_getitem__"), ("type", "__prepare__"), ("object", "__init_subclass__"),
    ("object", "__subclasshook__")]

/-- Built-in members that are bound to nothing. -/
def looseMembers : List (String × String) :=
  [("str", "maketrans"), ("bytes", "maketrans"), ("bytearray", "maketrans")]

/-- Whether a member of a type is found before what a value knows by its name. -/
def goesFirst (found : Value) : Evaluated Bool := do
  match found with
  | .member typeName name => return BuiltinType.ownMember? typeName name = some .data
  | .cell _ =>
    match ← cellOf? found with
    | some (.property ..) => return true
    | some (.thing _) =>
      return (← memberOf? found "__set__").isSome || (← memberOf? found "__delete__").isSome
    | _ => return false
  | _ => return false

/-- A member of a type as a value of that type has it. -/
def bindMember (found value type : Value) (name : String) : Evaluated Value := do
  match found with
  | .member owner known =>
    if BuiltinType.ownMember? owner known = some .data then dataOf value owner known
    else if typeLevelMembers.contains (owner, known) then return .bound found type
    else if looseMembers.contains (owner, known) || known = "__new__" then
      return .bound found (.type owner)
    else return .bound found value
  | .cell _ =>
    match ← cellOf? found with
    | some (.function _) => return .bound found value
    | some (.wrapper "staticmethod" function) => return function
    | some (.wrapper _ function) => return .bound function type
    | some (.property getter ..) =>
      match getter with
      | .nothing =>
        raise "AttributeError"
          ("property '" ++ name ++ "' of '" ++ (← nameOfType type) ++ "' object has no getter")
      | getter => perform (.call getter [value] [])
    | some (.thing _) =>
      match ← memberOf? found "__get__" with
      | some getter => perform (.call getter [found, value, type] [])
      | none => return found
    | _ => return found
  | .block _ => return .bound found value
  | other => return other

/-- A member of a type as the type itself has it. -/
def bindToType (found type : Value) : Evaluated Value := do
  match found with
  | .member owner known =>
    if typeLevelMembers.contains (owner, known) then return .bound found type
    else if looseMembers.contains (owner, known) || known = "__new__" then
      return .bound found (.type owner)
    else return found
  | .cell _ =>
    match ← cellOf? found with
    | some (.wrapper "staticmethod" function) => return function
    | some (.wrapper _ function) => return .bound function type
    | some (.thing _) =>
      match ← memberOf? found "__get__" with
      | some getter => perform (.call getter [found, .nothing, type] [])
      | none => return found
    | _ => return found
  | other => return other

/-- What a value knows by name, as a mapping. -/
def knowledgeOf? (value : Value) : Evaluated (Option Value) := do
  match ← cellOf? value with
  | some (.thing found) => return some (.cell found.attributes)
  | some (.function function) => return some (.cell function.attributes)
  | some (.module _ members) => return some (.cell members)
  | _ => return none

/-- The members of a projection object that are no methods. -/
def dataOfObject? (id : ObjectId) (key : ClassKey) (name : String) : Evaluated (Option Value) := do
  let program := (← read).program
  match name with
  | "fields" =>
    match ((← get).store.object? id).bind program.bareFault? with
    | some fault => raise fault.typeName fault.message
    | none => return some (.fields id)
  | "__dict__" => return some (.state id)
  | "__class__" => return some (.projectionType key)
  | "__module__" => return some (.text key.moduleName)
  | "__weakref__" => return some .nothing
  | "__dsl_context__" => return some (.truth true)
  | "__doc__" =>
    return some ((((program.class? key).bind Program.documentation?).map .text).getD .nothing)
  | _ => return none

/-- Methods that all projections inherit. -/
def inheritedMethods : List String := ["serialize", "__init__", "__repr__"]

/-- A member of a projection object. -/
def memberOfObject (id : ObjectId) (name : String) : Evaluated Value := do
  let program := (← read).program
  match (← get).store.object? id with
  | none => giveUp
  | some object =>
    let key := object.classKey
    match program.accessFault? key with
    | some fault => raise fault.typeName fault.message
    | none =>
      match ← dataOfObject? id key name with
      | some value => return value
      | none =>
        if (program.accessor? key name).isSome || inheritedMethods.contains name
            || (BuiltinType.ownMember? "object" name).isSome then
          return .bound (.foreign "function" name) (.object id)
        else onStore (program.callMissing id key name)

/-- A member of a class of projections. -/
def memberOfProjectionType? (key : ClassKey) (name : String) : Evaluated (Option Value) := do
  let program := (← read).program
  match name with
  | "__name__" | "__qualname__" => return some (.text key.name)
  | "__module__" => return some (.text key.moduleName)
  | "__dsl_context__" => return if key.moduleName = "" then none else some (.truth true)
  | "__doc__" =>
    return some ((((program.class? key).bind Program.documentation?).map .text).getD .nothing)
  | _ =>
    if (program.accessor? key name).isSome || inheritedMethods.contains name then
      return some (.foreign "function" name)
    else return none

/-- Raises that a value has no member of a name. -/
def missMember (value : Value) (name : String) : Evaluated α := do
  let details := [("name", .text name), ("obj", value)]
  let message ← do
    if ← isType value then
      pure ("type object '" ++ (← nameOfType value) ++ "' has no attribute '" ++ name ++ "'")
    else pure ("'" ++ (← typeName value) ++ "' object has no attribute '" ++ name ++ "'")
  raiseWith "AttributeError" [.text message] details

/-- Raises that a module has no member of a name. A module that is still loading may get it later. -/
def missModuleMember (moduleName name : String) (members : List (Value × Value)) : Evaluated α := do
  let message ← match Value.lookUp (.text "__name__") members with
    | some (.text shown) => do
      if (← get).beginning.contains moduleName then
        pure ("partially initialized module '" ++ shown ++ "' has no attribute '" ++ name
          ++ "' (most likely due to a circular import)")
      else if (← get).beginning.contains (moduleName ++ "." ++ name) then
        pure ("cannot access submodule '" ++ name ++ "' of module '" ++ shown
          ++ "' (most likely due to a circular import)")
      else pure ("module '" ++ shown ++ "' has no attribute '" ++ name ++ "'")
    | _ => pure ("module has no attribute '" ++ name ++ "'")
  raise "AttributeError" message

/-- A member of a module. A module may define a function that is asked for members it does not have. -/
def memberOfModule (value : Value) (moduleName : String) (id : CellId) (name : String) :
    Evaluated Value := do
  let type := Value.type "module"
  match ← memberOfType? type name with
  | some found =>
    if ← goesFirst found then
      if name = "__doc__" then
        return (Value.lookUp (.text name) (← entries (.cell id))).getD .nothing
      else bindMember found value type name
    else
      match Value.lookUp (.text name) (← entries (.cell id)) with
      | some known => return known
      | none => bindMember found value type name
  | none =>
    let members ← entries (.cell id)
    match Value.lookUp (.text name) members, Value.lookUp (.text "__getattr__") members with
    | some known, _ => return known
    | none, some getter => perform (.call getter [.text name] [])
    | none, none => missModuleMember moduleName name members

/-- A member of a type. -/
def memberOfTypeValue (type : Value) (name : String) : Evaluated Value := do
  let kind ← typeOf type
  let ofTypes ← memberOfType? kind name
  match ofTypes with
  | some found =>
    if ← goesFirst found then bindMember found type kind name
    else
      match ← memberOfType? type name with
      | some known => bindToType known type
      | none => bindMember found type kind name
  | none =>
    match ← memberOfType? type name with
    | some known => bindToType known type
    | none => missMember type name

/-- The types behind a type in the order of the type of an owner. -/
def typesBehind (type owner : Value) : Evaluated (List Value) := do
  let start ← if ← isType owner then pure owner else typeOf owner
  return ((← orderOfType start).dropWhile fun found => !found.isIdentical type).drop 1

/-- A member as it is found behind a type. -/
def memberBehind (value type owner : Value) (name : String) : Evaluated Value := do
  match ← firstMember? name (← typesBehind type owner) with
  | some found =>
    if name = "__class__" then return .type "super"
    else if ← isType owner then bindToType found owner
    else bindMember found owner (← typeOf owner) name
  | none => missMember value name

/-- A member of any other value. -/
def memberOfThing (value : Value) (name : String) : Evaluated Value := do
  let type ← typeOf value
  let found? ← memberOfType? type name
  let known? ← do
    match ← knowledgeOf? value with
    | some knowledge => pure (Value.lookUp (.text name) (← entries knowledge))
    | none => pure none
  match found?, known? with
  | some found, some known =>
    if ← goesFirst found then bindMember found value type name else return known
  | some found, none => bindMember found value type name
  | none, some known => return known
  | none, none =>
    match ← memberOfType? type "__getattr__" with
    | some getter => perform (.call getter [value, .text name] [])
    | none => missMember value name

/-- Whether something raised is of a built-in type. -/
def isFailureOf (exception : Value) (name : String) : Evaluated Bool := isThingOf exception name

/-- The member of a value that a name reaches. -/
def memberOf (value : Value) (name : String) : Evaluated Value := do
  match value with
  | .object id => memberOfObject id name
  | .projectionType key =>
    match ← memberOfProjectionType? key name with
    | some found => return found
    | none => memberOfTypeValue value name
  | .type _ => memberOfTypeValue value name
  | .bound (.cell id) owner =>
    match ← memberOfType? (.type "method") name with
    | some found =>
      if name = "__doc__" then memberOfThing (.cell id) name
      else bindMember found value (.type "method") name
    | none => if owner matches .nothing then missMember value name else memberOfThing (.cell id) name
  | .foreign typeName shown =>
    if name = "__class__" then return .foreign "type" typeName
    else if name = "__name__" then return .text shown
    else return .foreign "" ""
  | .cell id =>
    match ← cell? id with
    | some (.module moduleName members) => memberOfModule value moduleName members name
    | some (.type _) => memberOfTypeValue value name
    | some (.parent type owner) => memberBehind value type owner name
    | some (.thing found) =>
      match ← memberOfType? found.type "__getattribute__" with
      | some (.cell getter) =>
        let attempt := perform (.call (.cell getter) [value, .text name] [])
        tryCatch attempt fun interruption => do
          match interruption with
          | .raised exception =>
            if ← isFailureOf exception "AttributeError" then
              match ← memberOfType? found.type "__getattr__" with
              | some getter => perform (.call getter [value, .text name] [])
              | none => throw interruption
            else throw interruption
          | other => throw other
      | _ => memberOfThing value name
    | _ => memberOfThing value name
  | other => memberOfThing other name

/-- The member of a value that a name reaches, if there is one. -/
def memberIfAny? (value : Value) (name : String) : Evaluated (Option Value) := do
  tryCatch (some <$> memberOf value name) fun interruption => do
    match interruption with
    | .raised exception =>
      if ← isFailureOf exception "AttributeError" then return none else throw interruption
    | other => throw other

end SelectionGen.Evaluation
