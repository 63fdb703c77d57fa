import SelectionGen.Evaluation.Arguments
import SelectionGen.Evaluation.Names

/-! How the arguments of a call become the values of the parameters of a function. Arguments by name are
looked at first; then there may be too many by place, then too few. -/
namespace SelectionGen.Evaluation

open Target

namespace Binding

/-- Parameters with the values they have so far. -/
abbrev Bound := List (String × Value)

/-- Names in quotes, the last one behind a word. -/
def enumerated (names : List String) : String :=
  match names.map Text.quoted with
  | [] => ""
  | [single] => single
  | [first, second] => first ++ " and " ++ second
  | several => listed several.dropLast ++ ", and " ++ several.getLastD ""

/-- Raises that arguments are missing. -/
def refuseMissing (function : Function) (description : String) (names : List String) : Evaluated α :=
  refuse (function.path ++ "() missing " ++ toString names.length ++ " required " ++ description
    ++ " argument" ++ (if names.length = 1 then "" else "s") ++ ": " ++ enumerated names)

/-- The parameters of a function that can be given by place. -/
def placed (function : Function) : List Parameter :=
  function.parameters.byPlace ++ function.parameters.regular

/-- A parameter as the function keeps it. -/
def keptName (function : Function) (parameter : Parameter) : String :=
  function.scope.kept parameter.name

/-- Raises that there are more arguments by place than parameters. -/
def refuseSurplus (function : Function) (given named : Nat) : Evaluated α := do
  let all := (placed function).length
  let optional := ((placed function).filter fun parameter =>
    (function.defaults.lookup parameter.name).isSome).length
  let (expected, isPlural) :=
    if optional = 0 then (toString all, decide (all ≠ 1))
    else ("from " ++ toString (all - optional) ++ " to " ++ toString all, true)
  let besides :=
    if named = 0 then ""
    else " positional argument" ++ (if given = 1 then "" else "s") ++ " (and " ++ toString named
      ++ " keyword-only argument" ++ (if named = 1 then "" else "s") ++ ")"
  refuse (function.path ++ "() takes " ++ expected ++ " positional argument"
    ++ (if isPlural then "s" else "") ++ " but " ++ toString given ++ besides ++ " "
    ++ (if given = 1 ∧ named = 0 then "was" else "were") ++ " given")

/-- What arguments by name give, in front of those by place that are bound already. The rest is left for
the parameter that takes it. -/
def byName (function : Function) (named : List (String × Value)) :
    Bound → List (String × Value) → List (String × Value) → Evaluated (Bound × List (String × Value))
  | bound, rest, [] => return (bound, rest.reverse)
  | bound, rest, (name, value) :: others => do
    let takers := (function.parameters.regular ++ function.parameters.byName).map (keptName function)
    if takers.contains name then
      if bound.any fun (known, _) => known == name then
        refuse (function.path ++ "() got multiple values for argument '" ++ name ++ "'")
      else byName function named (bound ++ [(name, value)]) rest others
    else if function.parameters.mapping.isSome then
      byName function named bound ((name, value) :: rest) others
    else
      let misplaced := (function.parameters.byPlace.map (keptName function)).filter fun known =>
        named.any fun (name, _) => name == known
      if misplaced.isEmpty then
        refuse (function.path ++ "() got an unexpected keyword argument '" ++ name ++ "'")
      else
        refuse (function.path ++ "() got some positional-only arguments passed as keyword arguments: '"
          ++ listed misplaced ++ "'")

/-- Parameters with the values that stand for those that are not given; the others are named. -/
def completed (function : Function) (bound : Bound) (parameters : List Parameter) :
    Bound × List String :=
  parameters.foldl (fun (bound, missing) parameter =>
    let name := keptName function parameter
    if bound.any fun (known, _) => known == name then (bound, missing)
    else
      match function.defaults.lookup parameter.name with
      | some value => (bound ++ [(name, value)], missing)
      | none => (bound, missing ++ [name])) (bound, [])

end Binding

open Binding in
/-- The values of the parameters of a function for the arguments of a call, in the order of the parameters. -/
def boundArguments (function : Function) (given : Given) : Evaluated (List (String × Value)) := do
  let parameters := function.parameters
  let names := (placed function).map (keptName function)
  let first := names.zip given.arguments
  let surplus := given.arguments.drop names.length
  let (bound, rest) ← byName function given.named first [] given.named
  if !surplus.isEmpty && parameters.others.isNone then
    let named := (parameters.byName.filter fun parameter =>
      bound.any fun (known, _) => known == keptName function parameter).length
    refuseSurplus function given.arguments.length named
  let (bound, missing) := completed function bound (placed function)
  if !missing.isEmpty then refuseMissing function "positional" missing
  let (bound, missing) := completed function bound parameters.byName
  if !missing.isEmpty then refuseMissing function "keyword-only" missing
  let others := parameters.others.toList.map fun parameter =>
    (keptName function parameter, Value.tuple surplus)
  let mapping ← parameters.mapping.toList.mapM fun parameter => do
    let found ← allocate (.mapping (rest.map fun (name, value) => (.text name, value)))
    return (keptName function parameter, found)
  let ordered := (names ++ parameters.byName.map (keptName function)).filterMap fun name =>
    (bound.lookup name).map fun value => (name, value)
  return ordered ++ others ++ mapping

/-- The frame that the body of a function is run in. -/
def frameFor (function : Function) (given : Given) : Evaluated Scope := do
  let bound ← boundArguments function given
  let further := function.scope.names.filter fun name => !bound.any fun (known, _) => known == name
  let frame ← allocateId (.frame ((bound.map fun (name, value) => (name, some value))
    ++ further.map fun name => (name, none)))
  return { function.scope with place := .frame frame }

end SelectionGen.Evaluation
