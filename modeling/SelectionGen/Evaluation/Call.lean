import SelectionGen.Evaluation.Binding
import SelectionGen.Evaluation.Importing
import SelectionGen.Evaluation.Provided

/-! Calling values: functions that code defines, types, built-in functions and members, blocks of chains, and
things whose type says what a call does. -/
namespace SelectionGen.Evaluation

open Target

/-- How many calls can be under way at once. -/
def callLimit : Nat := 900

/-- Does something as a part of a call. Too many calls within one another are refused. -/
def asCall (action : Evaluated α) : Evaluated α := do
  let depth := (← get).depth
  if callLimit ≤ depth then raise "RecursionError" "maximum recursion depth exceeded"
  modify fun memory => { memory with depth := depth + 1 }
  let restore : Evaluated Unit := modify fun memory => { memory with depth }
  let result ← tryCatch action fun interruption => do restore; throw interruption
  restore
  return result

/-- Runs the body of a function in its frame, up to where it gives something back. -/
def runFunction (function : Function) (scope : Scope) : Evaluated Value := do
  let attempt : Evaluated Value := do
    let _ ← perform (.run scope function.body)
    return .nothing
  asCall <| tryCatch attempt fun interruption => do
    match interruption with
    | .returned value => return value
    | other => throw other

/-- Calls a function that code defines. One that is run bit by bit is only made ready. -/
def callFunction (function : Function) (given : Given) : Evaluated Value := do
  let scope ← frameFor function given
  let ready (typeName : String) : Evaluated Value :=
    allocate (.generator ⟨typeName, function.name, function.path, .waiting scope function.body⟩)
  match function.kind with
  | .plain => runFunction function scope
  | .generator => ready "generator"
  | .coroutine => ready "coroutine"
  | .asyncGenerator => ready "async_generator"

/-- Raises that a value cannot be called. -/
def refuseCall (value : Value) : Evaluated α := do
  refuse ("'" ++ (← typeName value) ++ "' object is not callable")

/-- Calls a type that code defines. The type of the type can say what that does. -/
def callType (type : Value) (given : Given) : Evaluated Value := do
  match ← memberOfType? (← typeOf type) "__call__" with
  | some (.member ..) | none => instantiate type given
  | some found => perform (.call (← bindMember found type (← typeOf type) "__call__") given.arguments given.named)

/-- Makes an object of a class of projections. -/
def callProjectionType (key : ClassKey) (given : Given) : Evaluated Value := do
  let shown := baseProjection.name ++ ".__init__"
  match given.named with
  | (name, _) :: _ => refuse (shown ++ "() got an unexpected keyword argument '" ++ name ++ "'")
  | [] =>
    if given.arguments.isEmpty then return .object (← onStore ((← read).program.instantiate key))
    else raise "TypeError" (CallError.tooManyArguments shown 1 (given.arguments.length + 1)).message

/-- Calls a member that a projection inherits or that all values have. -/
def callReached (id : ObjectId) (name : String) (reached : Reached) (given : Given) : Evaluated Value := do
  match reached with
  | .below below => return .object below
  | .value value => return value
  | .common => callBuiltinMember "object" name (← typeName (.object id)) (.object id) given

/-- Calls a method of a projection object. -/
def callMethod (id : ObjectId) (name : String) (given : Given) : Evaluated Value := do
  let program := (← read).program
  match (← get).store.object? id, given.arguments, given.named with
  | some object, [], [] =>
    callReached id name (← onStore (program.callMember id object.classKey name)) given
  | some object, [block], [] =>
    match ← onStore (program.openMember id object.classKey name) with
    | .below below =>
      let _ ← perform (.call block [.object below] [])
      return .object below
    | reached => callReached id name reached given
  | some object, arguments, [] =>
    if (program.accessor? object.classKey name).isNone
        && (BuiltinType.ownMember? "object" name).isSome && !inheritedMethods.contains name then
      callReached id name .common given
    else
      match program.accessor? object.classKey name with
      | some ⟨shown, _, body, _⟩ =>
        let taken := match body with
          | .leaf => 1
          | .composite _ => 2
        raise "TypeError"
          (CallError.tooManyArguments (Program.methodName object.classKey shown) taken
            (arguments.length + 1)).message
      | none =>
        raise "TypeError"
          (CallError.tooManyArguments (baseProjection.name ++ "." ++ name) 1 (arguments.length + 1)).message
  | _, _, _ => giveUp

/-- Calls a member of a value by name, possibly with a block. -/
def callNamed (value : Value) (name : String) (block? : Option Block) : Evaluated Value := do
  let given : Given := { arguments := (block?.map .block).toList }
  match value with
  | .object id => callMethod id name given
  | _ => perform (.call (← memberOf value name) given.arguments [])

mutual

/-- Follows a chain from a value. -/
def follow : Chain → Value → Evaluated Value
  | .done, value => return value
  | .call name rest, value => do follow rest (← callNamed value name none)
  | .callWith name block rest, value => do follow rest (← callNamed value name (some block))

/-- Follows all chains of a block from the same value. -/
def runBlock : Block → Value → Evaluated Unit
  | .done, _ => return
  | .chain first rest, value => do
    let _ ← follow first value
    runBlock rest value

end

/-- Calls a value. -/
def callValue (value : Value) (given : Given) : Evaluated Value := do
  match value with
  | .builtin "__import__" =>
    match ← given.required "__import__" 1 ["name", "globals", "locals", "fromlist", "level"] with
    | some name :: _ =>
      match ← core name with
      | .text name => Importing.firstOf name
      | _ => refuse "module name must be a string"
    | _ => giveUp
  | .builtin name => callProvided name given
  | .type name => construct name given
  | .member owner name => callLoose owner name given
  | .bound (.member owner name) self => callBuiltinMember owner name (← shownOwner self) self given
  | .bound (.foreign "function" name) (.object id) => callMethod id name given
  | .bound function self => perform (.call function (self :: given.arguments) given.named)
  | .projectionType key => callProjectionType key given
  | .block block =>
    match given.arguments, given.named with
    | [argument], [] =>
      runBlock block argument
      return .nothing
    | _, _ => giveUp
  | .foreign typeName _ =>
    if typeName = "module" ∨ typeName = "_Feature" ∨ typeName = "dict" ∨ typeName = "ModuleSpec"
        ∨ typeName = "SourceFileLoader" then refuseCall value
    else return unknownValue
  | .cell id =>
    match ← cell? id with
    | some (.function function) => callFunction function given
    | some (.type _) => callType value given
    | some (.wrapper "staticmethod" function) => perform (.call function given.arguments given.named)
    | some (.thing found) =>
      match ← memberOfType? found.type "__call__" with
      | some member =>
        perform (.call (← bindMember member value found.type "__call__") given.arguments given.named)
      | none => refuseCall value
    | _ => refuseCall value
  | _ => refuseCall value
where
  shownOwner (self : Value) : Evaluated String := do
    if ← isType self then nameOfType self else typeName self

end SelectionGen.Evaluation
