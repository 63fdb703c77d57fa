import SelectionGen.Evaluation.Assignment
import SelectionGen.Evaluation.Description

/-! Defining functions. A function keeps the frames around it and the values that stand for arguments; its body is
gone through once to find the names it binds and whether it gives values while it runs. -/
namespace SelectionGen.Evaluation

open Target

/-- The scope in which the body of a function is run, and how. -/
def functionScope (scope : Scope) (taken : Parameters) (path : String) (body : List Statement) :
    Scope × Bool :=
  let block := surveyed .function scope.className do
    Survey.parameters taken
    body.forM (Survey.statement (surveyDepth body))
  let outer := match scope.place with
    | .frame id => id :: scope.outer
    | _ => scope.outer
  let first := (taken.byPlace ++ taken.regular ++ taken.others.toList).head?
  ({ scope with
      place := .module
      outer
      names := ownBound block
      globalNames := boundInModule block
      path := path ++ ".<locals>."
      subject := first.map fun parameter => scope.kept parameter.name
      around := none }, block.yields)

/-- The values that stand for arguments which are not given. -/
def defaultsOf (scope : Scope) (taken : Parameters) : Evaluated (List (String × Value)) := do
  let found ← (taken.byPlace ++ taken.regular ++ taken.byName).mapM fun parameter => do
    match parameter.default with
    | some default => return [(parameter.name, ← evaluate scope default)]
    | none => return []
  return found.flatten

/-- What is written about a value: what a type expression gives, unless it is left unread. -/
def noteOf (scope : Scope) (type : Expression) : Evaluated Value :=
  if scope.hasTextTypes then return .foreign "" "" else evaluate scope type

/-- The types that are written with parameters and with the result. -/
def notesOf (scope : Scope) (taken : Parameters) (result : Option Expression) :
    Evaluated (List (Value × Value)) := do
  let parameters := taken.byPlace ++ taken.regular ++ taken.others.toList ++ taken.byName
    ++ taken.mapping.toList
  let found ← parameters.mapM fun parameter => do
    match parameter.type with
    | some type => return [(Value.text (scope.kept parameter.name), ← noteOf scope type)]
    | none => return []
  let ofResult ← result.toList.mapM fun type => do
    return (Value.text "return", ← noteOf scope type)
  return found.flatten ++ ofResult

/-- The text that documents a body, if it begins with one. -/
def documentationOf (body : List Statement) : Value :=
  match body.head?.map Statement.form with
  | some (.expression ⟨_, .constant (.text text)⟩) => .text text
  | _ => .nothing

/-- A new function. -/
def newFunction (scope : Scope) (isAsync : Bool) (name : String) (taken : Parameters)
    (result : Option Expression) (body : List Statement) : Evaluated Value := do
  let defaults ← defaultsOf scope taken
  let notes ← allocateId (.mapping (← notesOf scope taken result))
  let attributes ← allocateId (.mapping [])
  let path := if scope.globalNames.contains (scope.kept name) then name else scope.path ++ name
  let (inner, yields) := functionScope scope taken path body
  let kind := match isAsync, yields with
    | false, false => FunctionKind.plain
    | false, true => .generator
    | true, false => .coroutine
    | true, true => .asyncGenerator
  let moduleName := (← inModule? scope.globals "__name__").getD .nothing
  allocate (.function {
    name, path, kind, parameters := taken, body, scope := inner, defaults
    documentation := documentationOf body, moduleName, notes, attributes })

end SelectionGen.Evaluation
