import SelectionGen.Evaluation.Expression

/-! Raising and handling. What is raised is a thing of a type of failures, and what is being handled is known
while it is handled; blocks that work with a resource end by telling it how they end. -/
namespace SelectionGen.Evaluation

open Target

namespace Handling

/-- Makes something to raise from a value: a thing that can be raised, or a type of such things. -/
def raisable (value : Value) (refusal : String) : Evaluated Value := do
  if isForeign value then giveUp
  let isFailureType ← do
    if ← isType value then derivesFrom value (.type "BaseException") else pure false
  if isFailureType then
    let made ← perform (.call value [] [])
    if ← isThingOf made "BaseException" then return made
    else
      refuse ("calling " ++ (← describe value) ++ " should have returned an instance of BaseException, not "
        ++ (← describe (← typeOf made)))
  else if ← isThingOf value "BaseException" then return value
  else refuse refusal

/-- Adds a detail to what is raised. -/
def addDetail (exception : Value) (name : String) (value : Value) : Evaluated Unit := do
  match exception, ← cellOf? exception with
  | .cell id, some (.thing found) =>
    setCell id (.thing { found with details := (name, value) :: found.details })
  | _, _ => return

/-- Notes what was being handled when something is raised. -/
def addContext (exception : Value) : Evaluated Unit := do
  match (← get).handled with
  | current :: _ =>
    if !current.isIdentical exception then addDetail exception "__context__" current
  | [] => return

/-- Raises a value, possibly because of another one. Without a value, what is being handled is raised again. -/
def raiseValue (scope : Scope) (value cause : Option Expression) : Evaluated Unit := do
  match value with
  | none =>
    match (← get).handled with
    | current :: _ => throw (.raised current)
    | [] => raise "RuntimeError" "No active exception to reraise"
  | some value =>
    let given ← evaluate scope value
    let reason? ← match cause with
      | none => pure none
      | some cause => do pure (some (← evaluate scope cause))
    let exception ← raisable given "exceptions must derive from BaseException"
    match reason? with
    | none => pure ()
    | some .nothing => addDetail exception "__suppress_context__" (.truth true)
    | some reason =>
      let reason ← raisable reason "exception causes must derive from BaseException"
      addDetail exception "__cause__" reason
      addDetail exception "__suppress_context__" (.truth true)
    addContext exception
    throw (.raised exception)

/-- Does something while an exception is being handled. -/
def whileHandling (exception : Value) (action : Evaluated α) : Evaluated α := do
  let before := (← get).handled
  modify fun memory => { memory with handled := exception :: before }
  let restore : Evaluated Unit := modify fun memory => { memory with handled := before }
  let result ← tryCatch action fun interruption => do
    match interruption with
    | .raised raised =>
      addContext raised
      restore
      throw interruption
    | other =>
      restore
      throw other
  restore
  return result

/-- Whether something raised is of a type, or of one of several, to at most the given depth. -/
def isCaughtBy (exception : Value) : Nat → Value → Evaluated Bool
  | 0, _ => giveUp
  | depth + 1, types => do
    match types with
    | .tuple several =>
      several.forM checkFailureType
      several.anyM (isCaughtBy exception depth)
    | .foreign .. => giveUp
    | type =>
      checkFailureType type
      derivesFrom (← typeOf exception) type
where
  checkFailureType (type : Value) : Evaluated Unit := do
    if isForeign type then giveUp
    let isFailureType ← do
      if ← isType type then derivesFrom type (.type "BaseException") else pure false
    if !isFailureType then
      refuse "catching classes that do not inherit from BaseException is not allowed"

/-- Forgets a name after it stood for what was handled. -/
def forgetName (scope : Scope) (name : String) : Evaluated Unit := do
  bindName scope name .nothing
  unbindName scope name

/-- Runs statements one after the other. -/
def run (scope : Scope) (body : List Statement) : Evaluated Unit := do
  let _ ← perform (.run scope body)

/-- Handles something raised by the first handler that is for its type. Gives whether there is one. -/
def handle (scope : Scope) (exception : Value) : List Handler → Evaluated Bool
  | [] => return false
  | handler :: rest => do
    let isMeant ← match handler.type with
      | none => pure true
      | some type => do isCaughtBy exception 50 (← evaluate scope type)
    if !isMeant then handle scope exception rest
    else
      match handler.name with
      | none => run scope handler.body
      | some name =>
        bindName scope name exception
        let ended := forgetName scope name
        tryCatch (run scope handler.body) fun interruption => do
          ended
          throw interruption
        ended
      return true

/-- Does something at the end of an action, however it ends. What happens then counts more than how the action
ended. -/
def endingWith (action ending : Evaluated Unit) : Evaluated Unit := do
  tryCatch action fun interruption => do
    match interruption with
    | .raised exception =>
      whileHandling exception ending
      throw interruption
    | .enough | .unknown => throw interruption
    | other =>
      ending
      throw other
  ending

/-- Runs statements, handlers for what they raise, others if they raise nothing, and those for the end. -/
def attempt (scope : Scope) (isForGroups : Bool) (body : List Statement) (handlers : List Handler)
    (otherwise ending : List Statement) : Evaluated Unit := do
  let handled : Evaluated Unit := do
    let raised? ← tryCatch (do run scope body; return none) fun interruption => do
      match interruption with
      | .raised exception => return some exception
      | other => throw other
    match raised? with
    | none => run scope otherwise
    | some exception =>
      if isForGroups then giveUp
      let isDone ← whileHandling exception (handle scope exception handlers)
      if !isDone then throw (.raised exception)
  if ending.isEmpty then handled else endingWith handled (run scope ending)

/-- Tells a resource that the block that works with it has ended. -/
def leave (exit value : Value) (arguments : List Value) : Evaluated Value := do
  perform (.call (← bindMember exit value (← typeOf value) "__exit__") arguments [])

/-- Runs a block with resources. -/
def withResources (scope : Scope) (body : List Statement) : List Resource → Evaluated Unit
  | [] => run scope body
  | item :: rest => do
    let value ← evaluate scope item.value
    if isForeign value then giveUp
    let refused (more : String) : Evaluated Value := do
      refuse ("'" ++ (← typeName value) ++ "' object does not support the context manager protocol" ++ more)
    let type ← typeOf value
    let enter ← match ← memberOfType? type "__enter__" with
      | some found => pure found
      | none => refused ""
    let exit ← match ← memberOfType? type "__exit__" with
      | some found => pure found
      | none => refused " (missed __exit__ method)"
    let entered ← perform (.call (← bindMember enter value type "__enter__") [] [])
    let inner : Evaluated Unit := do
      match item.target with
      | some target => assign scope target entered
      | none => pure ()
      withResources scope body rest
    let isLeft ← tryCatch (do inner; return false) fun interruption => do
      match interruption with
      | .raised exception =>
        let answer ← whileHandling exception do
          leave exit value [← typeOf exception, exception, .foreign "traceback" ""]
        if ← truthOf answer then return true else throw interruption
      | .enough | .unknown => throw interruption
      | other =>
        let _ ← leave exit value [.nothing, .nothing, .nothing]
        throw other
    if !isLeft then
      let _ ← leave exit value [.nothing, .nothing, .nothing]

end Handling

end SelectionGen.Evaluation
