import SelectionGen.Evaluation.Defining
import SelectionGen.Evaluation.Operation

/-! Loops within expressions. What they collect is put together at once, except that a generator is made ready and
runs when its values are asked for. Their targets are names of a frame of their own; the first source belongs
to the block around. -/
namespace SelectionGen.Evaluation

open Target

/-- The scope of a loop within an expression, with the names that its targets bind. -/
def loopScope (scope : Scope) (loops : List Loop) (further : List String) : Evaluated Scope := do
  let depth := (loops.map fun loop => loop.target.depth .ofTree).foldl max 0 + 2
  let block := surveyed .function scope.className
    (loops.forM fun loop => Survey.expression depth .assign loop.target)
  let names := further ++ ownBound block
  let frame ← allocateId (.frame (names.map fun name => (name, none)))
  let outer := match scope.place with
    | .frame id => id :: scope.outer
    | _ => scope.outer
  return { scope with place := .frame frame, outer, names, subject := none, around := some scope }

/-- Goes through loops one in another, the source of the first one being at hand, as long as the step says
so. -/
def throughLoops (scope : Scope) (step : Evaluated Unit) :
    Value → Loop → List Loop → Evaluated Unit
  | source, loop, rest => do
    let _ ← forEach source fun value => do
      assign scope loop.target value
      let isKept ← loop.conditions.allM fun condition => do truthOf (← evaluate scope condition)
      if isKept then
        match rest with
        | [] => step
        | next :: others => throughLoops scope step (← sourceOf (← evaluate scope next.source)) next others
      return true
termination_by _ _ rest => rest

/-- Collects what loops within an expression give. -/
def collected (scope : Scope) (loops : List Loop) (element : Scope → Evaluated Value) :
    Evaluated (List Value) := do
  match loops with
  | [] => return []
  | first :: rest =>
    let source ← sourceOf (← evaluate scope first.source)
    let inner ← loopScope scope loops []
    let kept ← allocateId (.list [])
    let step : Evaluated Unit := do
      let value ← element inner
      setCell kept (.list (value :: ((← listElements? (.cell kept)).getD [])))
    throughLoops inner step source first rest
    return ((← listElements? (.cell kept)).getD []).reverse

/-- The name under which a generator keeps its first source. -/
def sourceName : String := ".0"

/-- Loops as statements that give an element each time. -/
def asStatements (line : Nat) (element : Expression) : List Loop → List Statement
  | [] => [⟨line, .expression ⟨line, .yielded (some element)⟩⟩]
  | loop :: rest =>
    let inner := asStatements line element rest
    let body := loop.conditions.foldr (fun condition body => [⟨line, .choice condition body []⟩]) inner
    [⟨line, .forLoop loop.isAsync loop.target loop.source body []⟩]

/-- A generator that gives what loops within an expression lead to. -/
def newLoopGenerator (scope : Scope) (line : Nat) (element : Expression) (loops : List Loop) :
    Evaluated Value := do
  match loops with
  | [] => giveUp
  | first :: rest =>
    let source ← sourceOf (← evaluate scope first.source)
    let inner ← loopScope scope loops [sourceName]
    bindName inner sourceName source
    let body := asStatements line element
      ({ first with source := ⟨line, .name sourceName⟩ } :: rest)
    let typeName := if loops.any Loop.isAsync then "async_generator" else "generator"
    allocate (.generator ⟨typeName, "<genexpr>", scope.path ++ "<genexpr>", .waiting inner body⟩)

end SelectionGen.Evaluation
