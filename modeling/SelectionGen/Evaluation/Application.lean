import SelectionGen.Evaluation.Call
import SelectionGen.Evaluation.Collecting

/-! Call expressions. Arguments can be taken from sources and mappings; a member of a built-in type that is called at
once is named by the type that owns it. Some functions look at the block that they are called in. -/
namespace SelectionGen.Evaluation

open Target

namespace Application

/-- A function as messages about its arguments show it. -/
def shownFunction (function : Value) : Evaluated String := do
  match function with
  | .builtin name | .type name => return name ++ "()"
  | .bound (.member owner name) _ | .member owner name => return owner ++ "." ++ name ++ "()"
  | _ =>
    match ← memberIfAny? function "__qualname__" with
    | none => textOf function
    | some path =>
      let shown ← textOf path
      match ← memberIfAny? function "__module__" with
      | some (.text "builtins") => return shown ++ "()"
      | some (.text moduleName) => return moduleName ++ "." ++ shown ++ "()"
      | _ => return shown ++ "()"

/-- The values that an argument with a star stands for. -/
def spread (function : Value) (isAlone : Bool) (value : Value) : Evaluated (List Value) := do
  tryCatch (elementsOf value) fun interruption => do
    match interruption with
    | .raised exception =>
      let hasElements := (← definedMember? value "__iter__").isSome
        || (← definedMember? value "__getitem__").isSome || (← sourceOfCore? (← core value)).isSome
      if (← isFailureOf exception "TypeError") && !hasElements then
        let shown ← if isAlone then shownFunction function else pure "Value"
        let opening := if isAlone then shown ++ " argument" else shown
        refuse (opening ++ " after * must be an iterable, not " ++ (← typeName value))
      else throw interruption
    | other => throw other

/-- The arguments by place. -/
def argumentsOf (scope : Scope) (function : Value) (arguments : List Expression) :
    Evaluated (List Value) := do
  let isAlone := arguments.length = 1
  let found ← arguments.mapM fun argument => do
    match argument.form with
    | .starred inner => spread function isAlone (← evaluate scope inner)
    | _ => return [← evaluate scope argument]
  return found.flatten

/-- The entries that an argument with two stars stands for. -/
def spreadEntries (function value : Value) : Evaluated (List (Value × Value)) := do
  let found ← core value
  if ← isMapping found then entries found
  else
    match ← memberIfAny? value "keys" with
    | some _ => entriesOf value
    | none =>
      refuse ((← shownFunction function) ++ " argument after ** must be a mapping, not "
        ++ (← typeName value))

/-- Adds arguments by name to others; no name occurs twice. -/
def addNamed (function : Value) (named : List (String × Value)) :
    List (Value × Value) → Evaluated (List (String × Value))
  | [] => return named
  | (key, value) :: rest => do
    match ← core key with
    | .text name =>
      if named.any fun (known, _) => known == name then
        refuse ((← shownFunction function) ++ " got multiple values for keyword argument '" ++ name ++ "'")
      else addNamed function (named ++ [(name, value)]) rest
    | _ => refuse "keywords must be strings"

/-- The arguments by name. -/
def namedOf (scope : Scope) (function : Value) (keywords : List Keyword) :
    Evaluated (List (String × Value)) :=
  keywords.foldlM (fun named keyword => do
    let value ← evaluate scope keyword.value
    match keyword.name with
    | some name => addNamed function named [(.text name, value)]
    | none => addNamed function named (← spreadEntries function value)) []

/-- The names of a block as a mapping. -/
def localNames (scope : Scope) : Evaluated Value := do
  match scope.place with
  | .module => return .cell scope.globals
  | .members id => return .cell id
  | .frame _ => newMapping (← namesOfBlock scope)

/-- The type that a function is defined in, and the value that it is called on. -/
def parentOf (scope : Scope) : Evaluated Value := do
  match scope.place, scope.subject with
  | .frame id, some subject =>
    match (← namesOfFrame id).lookup subject with
    | some (some owner) =>
      match ← frameOf? Survey.ownClassName scope.outer with
      | some frame =>
        match (← namesOfFrame frame).lookup Survey.ownClassName with
        | some (some type) => Creation.newParent { arguments := [type, owner] }
        | _ => raise "RuntimeError" "super(): empty __class__ cell"
      | none => raise "RuntimeError" "super(): __class__ cell not found"
    | _ => raise "RuntimeError" "super(): arg[0] deleted"
  | _, _ => raise "RuntimeError" "super(): no arguments"

/-- Raises that a text is no code. -/
def refuseText : Evaluated α := do
  let message := "invalid syntax"
  raiseWith "SyntaxError" [.text message]
    [("msg", .text message), ("shown", .text (message ++ " (<string>, line 1)"))]

/-- The code of a text. -/
def codeOf (text : String) : Evaluated Code := do
  match readCode text with
  | .error .nullCharacter => raise "ValueError" "source code string cannot contain null bytes"
  | .error _ => refuseText
  | .ok code =>
    match checkCode code with
    | .error fault => Importing.raiseCodeFault "<string>" fault
    | .ok () => return code

/-- The scope that a text is run in: the block around, or names that are given. -/
def textScope (scope : Scope) (function : String) (given : Given) : Evaluated Scope := do
  let isExecution := function = "exec"
  match given.at? 1, given.at? 2 with
  | none, _ | some .nothing, none | some .nothing, some .nothing =>
    match scope.place with
    | .module => return { scope with path := "" }
    | _ => giveUp
  | some globals, places =>
    match ← core globals with
    | .cell id =>
      match ← cell? id with
      | some (.mapping known) =>
        if (Value.lookUp (.text "__builtins__") known).isNone then
          bindInModule id "__builtins__" (.foreign "dict" "builtins")
        match places with
        | none | some .nothing => return { globals := id }
        | some other =>
          if ← isMapping (← core other) then giveUp
          else if isExecution then
            refuse ("locals must be a mapping or None, not " ++ (← typeName other))
          else refuse "locals must be a mapping"
      | _ => wrong isExecution globals
    | .nothing => giveUp
    | _ => wrong isExecution globals
where
  wrong (isExecution : Bool) (globals : Value) : Evaluated Scope := do
    if isExecution then refuse ("exec() globals must be a dict, not " ++ (← typeName globals))
    else refuse "globals must be a dict"

/-- Runs a text as code, or gives the value of an expression that it spells. -/
def runText (scope : Scope) (function : String) (given : Given) : Evaluated Value := do
  let isExecution := function = "exec"
  let count := given.arguments.length
  if isExecution then
    if count = 0 then refuse "exec() takes at least 1 positional argument (0 given)"
    if 3 < count then refuse ("exec() takes at most 3 positional arguments (" ++ toString count ++ " given)")
  else checkProvided function given
  if !given.named.isEmpty then giveUp
  let inner ← textScope scope function given
  match ← core ((given.at? 0).getD .nothing) with
  | .text text =>
    if isExecution then perform (.run inner (← codeOf text))
    else
      let trimmed := String.ofList (text.toList.dropWhile fun c => c = ' ' ∨ c = '\t')
      match ← codeOf trimmed with
      | [⟨_, .expression expression⟩] => evaluate inner expression
      | _ => refuseText
  | .foreign .. => giveUp
  | .bytes _ => giveUp
  | _ => refuse (function ++ "() arg 1 must be a string, bytes or code object")

/-- Calls a function that looks at the block it is called in, if it is one. -/
def callWithin? (scope : Scope) (function : Value) (given : Given) : Evaluated (Option Value) := do
  let isBare := given.arguments.isEmpty && given.named.isEmpty
  match function with
  | .type "super" => if isBare then return some (← parentOf scope) else return none
  | .builtin name =>
    match name with
    | "globals" =>
      if isBare then return some (.cell scope.globals) else return none
    | "locals" | "vars" => if isBare then return some (← localNames scope) else return none
    | "dir" =>
      if isBare then
        return some (← sortedNames ((← namesOfBlock scope).filterMap fun (name, _) => name.text?))
      else return none
    | "eval" | "exec" => return some (← runText scope name given)
    | _ => return none
  | _ => return none

/-- Whether an argument is one of many. -/
def isSpread (arguments : List Expression) (keywords : List Keyword) : Bool :=
  arguments.any Expression.isStarred || keywords.any fun keyword => keyword.name.isNone

end Application

open Application in
/-- The value of a call expression. -/
def applied (scope : Scope) (function : Expression) (arguments : List Expression) (keywords : List Keyword) :
    Evaluated Value := do
  let callee ← evaluate scope function
  let byPlace ← argumentsOf scope callee arguments
  let named ← namedOf scope callee keywords
  let given : Given := { arguments := byPlace, named }
  match ← callWithin? scope callee given with
  | some found => return found
  | none =>
    let isMember := function.form matches .member ..
    match callee with
    | .bound (.member owner name) self =>
      if isMember && !isSpread arguments keywords then callBuiltinMember owner name owner self given
      else perform (.call callee byPlace named)
    | _ => perform (.call callee byPlace named)

end SelectionGen.Evaluation
