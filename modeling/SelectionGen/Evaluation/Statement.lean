import SelectionGen.Evaluation.Handling
import SelectionGen.Evaluation.Matching
import SelectionGen.Evaluation.TypeStatement

/-! What statements do. Loops and functions are left by interruptions that the statement around takes note of. -/
namespace SelectionGen.Evaluation

open Target

/-- A value that decorators make of another one, the last decorator first. -/
def decorated (decorators : List Value) (value : Value) : Evaluated Value :=
  decorators.reverse.foldlM (fun value decorator => perform (.call decorator [value] [])) value

/-- Runs the body of a loop once. Gives whether the loop goes on. -/
def runOnce (scope : Scope) (body : List Statement) : Evaluated Bool := do
  tryCatch (do Handling.run scope body; return true) fun interruption => do
    match interruption with
    | .left => return false
    | .continued => return true
    | other => throw other

/-- Updates a target by an operator. Its parts are worked out once. -/
def updateTarget (scope : Scope) (target : Expression) (operator : BinaryOperator) (value : Expression) :
    Evaluated Unit := do
  match target.form with
  | .name name =>
    let old ← valueOfName scope name
    bindName scope name (← update operator old (← evaluate scope value))
  | .member owner name =>
    let owner ← evaluate scope owner
    let name := scope.kept name
    let old ← memberOf owner name
    let new ← update operator old (← evaluate scope value)
    changeMember owner name (some new) elementsOf
  | .index owner key =>
    let owner ← evaluate scope owner
    let key ← evaluate scope key
    let old ← elementOf owner key
    let new ← update operator old (← evaluate scope value)
    setElementOf owner key new
  | _ => giveUp

/-- Notes the type that is written with a name of a module or of a type. -/
def addNote (scope : Scope) (name : String) (type : Value) : Evaluated Unit := do
  let key := "__annotations__"
  let known? := Value.lookUp (.text key) (← namesOfBlock scope)
  let notes ← match known? with
    | some notes => pure notes
    | none => do
      let notes ← newMapping []
      match scope.place with
      | .members id => setCell id (.mapping ((← entries (.cell id)) ++ [(.text key, notes)]))
      | _ => bindInModule scope.globals key notes
      pure notes
  setElementOf notes (.text (scope.kept name)) type

/-- Declares the type of a target, and assigns a value to it if there is one. -/
def declare (scope : Scope) (target type : Expression) (value : Option Expression) (isSimple : Bool) :
    Evaluated Unit := do
  match value with
  | some value => assign scope target (← evaluate scope value)
  | none =>
    match target.form with
    | .member owner _ =>
      let _ ← evaluate scope owner
    | .index owner key =>
      let _ ← evaluate scope owner
      let _ ← evaluate scope key
    | _ => pure ()
  match scope.place with
  | .frame _ => return
  | _ =>
    let note ← noteOf scope type
    match target.form with
    | .name name => if isSimple then addNote scope name note
    | _ => return

/-- Repeats statements as long as a condition holds, and then runs others unless the loop is left. -/
def runWhile (scope : Scope) (condition : Expression) (body otherwise : List Statement) :
    Evaluated Unit := do
  let isDone ← repeatUntil do
    if ← truthOf (← evaluate scope condition) then
      if ← runOnce scope body then return none else return some false
    else return some true
  if isDone then Handling.run scope otherwise

/-- Runs statements for each value of a source, and then others unless the loop is left. -/
def runFor (scope : Scope) (target source : Expression) (body otherwise : List Statement) :
    Evaluated Unit := do
  let source ← sourceOf (← evaluate scope source)
  let isDone ← forEach source fun value => do
    assign scope target value
    runOnce scope body
  if isDone then Handling.run scope otherwise

/-- Runs the first case whose pattern matches a value and whose condition holds. -/
def runCases (scope : Scope) (value : Value) : List Case → Evaluated Unit
  | [] => return
  | found :: rest => do
    match ← matched scope found.pattern value with
    | none => runCases scope value rest
    | some bound =>
      bound.forM fun (name, value) => bindName scope name value
      let isMeant ← match found.condition with
        | none => pure true
        | some condition => do truthOf (← evaluate scope condition)
      if isMeant then Handling.run scope found.body else runCases scope value rest

/-- Does what a statement says. -/
def execute (scope : Scope) (statement : Statement) : Evaluated Unit := do
  match statement.form with
  | .expression value =>
    let _ ← evaluate scope value
  | .assignment targets value =>
    let found ← evaluate scope value
    targets.forM fun target => assign scope target found
  | .update target operator value => updateTarget scope target operator value
  | .declaration target type value isSimple => declare scope target type value isSimple
  | .deletion targets => targets.forM (delete scope)
  | .pass | .globalNames _ | .outerNames _ => return
  | .leaveLoop => throw .left
  | .continueLoop => throw .continued
  | .result value =>
    match value with
    | some value => throw (.returned (← evaluate scope value))
    | none => throw (.returned .nothing)
  | .error value cause => Handling.raiseValue scope value cause
  | .assertion condition message =>
    if !(← truthOf (← evaluate scope condition)) then
      raiseWith "AssertionError" (← message.toList.mapM (evaluate scope)) []
  | .imports modules => importModules scope modules
  | .importsFrom dots moduleName names => importNames scope dots moduleName names
  | .choice condition body otherwise =>
    if ← truthOf (← evaluate scope condition) then Handling.run scope body
    else Handling.run scope otherwise
  | .whileLoop condition body otherwise => runWhile scope condition body otherwise
  | .forLoop isAsync target source body otherwise =>
    if isAsync then giveUp else runFor scope target source body otherwise
  | .resources isAsync items body =>
    if isAsync then giveUp else Handling.withResources scope body items
  | .attempt isForGroups body handlers otherwise ending =>
    Handling.attempt scope isForGroups body handlers otherwise ending
  | .selection subject cases => runCases scope (← evaluate scope subject) cases
  | .function isAsync name parameters result decorators body =>
    let found ← decorators.mapM (evaluate scope)
    let function ← newFunction scope isAsync name parameters result body
    bindName scope name (← decorated found function)
  | .type name arguments keywords decorators body =>
    let found ← decorators.mapM (evaluate scope)
    let type ← TypeStatement.define scope name arguments keywords body
    bindName scope name (← decorated found type)

/-! Running code. A step does one thing and asks for others as tasks, which are performed in the same way; a run that
goes deeper than the given fuel is given up. -/

/-- Performs a task, asking for its parts. -/
def step (task : Task) : Evaluated Value := do
  match task with
  | .evaluate scope expression => valueOf scope expression
  | .run scope body =>
    body.forM (execute scope)
    return .nothing
  | .call function arguments named => callValue function { arguments, named }
  | .describe value => return .text (← describeValue value)
  | .equal a b => compare .equal a b
  | .next source => nextOf source

/-- Performs a task in a program, to at most the given depth of tasks within tasks. -/
def performUpTo (program : Program) : Nat → Task → ExceptT Interruption (StateM Memory) Value
  | 0, _ => throw .unknown
  | depth + 1, task => step task { program, perform := performUpTo program depth }

/-- How deep tasks can be within one another. -/
def depthLimit : Nat := 100000

/-- What something to be evaluated gives in a program, with the memory behind it. -/
def evaluateIn (program : Program) (action : Evaluated α) (memory : Memory) :
    Except Interruption α × Memory :=
  action { program, perform := performUpTo program depthLimit } memory

end SelectionGen.Evaluation
