import SelectionGen.Evaluation.Expression

/-! Statements that define types. The body is run in a block whose names become the members; the kind of the type,
which can be asked for, makes the type of them. Functions in the body find the type by a name of its own. -/
namespace SelectionGen.Evaluation

open Target

namespace TypeStatement

/-- The scope of the body of a type: its members, and around it a frame for the type itself. -/
def bodyScope (scope : Scope) (name path : String) (body : List Statement) (members frame : CellId) : Scope :=
  let block := surveyed .type (some name) (body.forM (Survey.statement (surveyDepth body)))
  let around := match scope.place with
    | .frame id => id :: scope.outer
    | _ => scope.outer
  { scope with
    place := .members members
    outer := frame :: around
    names := ownBound block
    globalNames := boundInModule block
    className := some name
    path := path ++ "."
    subject := none
    around := none }

/-- The members that a type begins with. -/
def firstMembers (scope : Scope) (path : String) (body : List Statement) :
    Evaluated (List (Value × Value)) := do
  let moduleName ← match ← inModule? scope.globals "__name__" with
    | some name => pure [(Value.text "__module__", name)]
    | none => pure []
  let documentation := match documentationOf body with
    | .nothing => []
    | text => [(Value.text "__doc__", text)]
  return moduleName ++ [(.text "__qualname__", .text path)] ++ documentation

/-- The kind that makes a type: the one that is asked for, and otherwise that of the first base. -/
def kindOf (named : List (String × Value)) (bases : List Value) : Evaluated Value := do
  let wanted ← match named.lookup "metaclass", bases with
    | some kind, _ => pure kind
    | none, first :: _ => typeOf first
    | none, [] => pure (.type "type")
  if ← isType wanted then
    if isForeign wanted then giveUp else kindFor wanted bases
  else return wanted

/-- The mapping that a kind prepares for the members of a type. -/
def prepared (kind : Value) (name : String) (bases : List Value) (named : List (String × Value)) :
    Evaluated (List (Value × Value)) := do
  match ← memberIfAny? kind "__prepare__" with
  | none | some (.bound (.member ..) _) => return []
  | some function =>
    let found ← perform (.call function [.text name, .tuple bases] named)
    if ← isMapping found then entries found else giveUp

/-- Defines a type. -/
def define (scope : Scope) (name : String) (arguments : List Expression) (keywords : List Keyword)
    (body : List Statement) : Evaluated Value := do
  let builder := Value.builtin "__build_class__"
  let bases ← Application.argumentsOf scope builder arguments
  let named ← Application.namedOf scope builder keywords
  if bases.any isForeign then giveUp
  let kind ← kindOf named bases
  let others := named.filter fun (name, _) => name ≠ "metaclass"
  let path := if scope.globalNames.contains (scope.kept name) then name else scope.path ++ name
  let first ← prepared kind name bases others
  let members ← allocateId (.mapping (first ++ (← firstMembers scope path body)))
  let frame ← allocateId (.frame [(Survey.ownClassName, none)])
  let _ ← perform (.run (bodyScope scope name path body members frame) body)
  let found ← entries (.cell members)
  let type ← match kind with
    | .type "type" => defineType kind name bases found others
    | _ => do perform (.call kind [.text name, .tuple bases, ← newMapping found] others)
  setInFrame frame Survey.ownClassName (some type)
  return type

end TypeStatement

end SelectionGen.Evaluation
