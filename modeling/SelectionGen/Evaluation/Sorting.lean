import SelectionGen.Evaluation.Arguments

/-! Sorting by comparisons alone, so that types can say what comes first. A run that is in order already is looked
for at the beginning, turned around if it goes down; each further value is put behind those before it that
are not above it. -/
namespace SelectionGen.Evaluation

open Target

/-- A value with the key that it is sorted by. -/
abbrev Keyed := Value × Value

/-- Whether the key of one value is below that of another. -/
def isKeyBelow (a b : Keyed) : Evaluated Bool := isBelow a.1 b.1

/-- The run that goes on downwards behind a value, the latest first, and the rest. -/
def runDown (found : List Keyed) (latest : Keyed) : List Keyed → Evaluated (List Keyed × List Keyed)
  | [] => return (found, [])
  | next :: rest => do
    if ← isKeyBelow next latest then runDown (next :: found) next rest else return (found, next :: rest)

/-- The run that goes on upwards behind a value, the latest first, and the rest. -/
def runUp (found : List Keyed) (latest : Keyed) : List Keyed → Evaluated (List Keyed × List Keyed)
  | [] => return (found, [])
  | next :: rest => do
    if ← isKeyBelow next latest then return (found, next :: rest) else runUp (next :: found) next rest

/-- The place for a value between the bounds, behind those that it is not below. -/
def placeFor (sorted : Array Keyed) (pivot : Keyed) : Nat → Nat → Nat → Evaluated Nat
  | 0, low, _ => return low
  | count + 1, low, high => do
    if high ≤ low then return low
    else
      let middle := low + (high - low) / 2
      match sorted[middle]? with
      | none => return low
      | some other =>
        if ← isKeyBelow pivot other then placeFor sorted pivot count low middle
        else placeFor sorted pivot count (middle + 1) high

/-- Puts values one after the other to their places. -/
def putInOrder (sorted : Array Keyed) : List Keyed → Evaluated (Array Keyed)
  | [] => return sorted
  | next :: rest => do
    let place ← placeFor sorted next (sorted.size + 1) 0 sorted.size
    putInOrder (sorted.insertIdxIfInBounds place next) rest

/-- Values in the order of their keys. -/
def inOrder (values : List Keyed) : Evaluated (List Keyed) := do
  match values with
  | first :: second :: rest =>
    let (sorted, rest) ←
      if ← isKeyBelow second first then runDown [second, first] second rest
      else do
        let (found, rest) ← runUp [second, first] second rest
        pure (found.reverse, rest)
    return (← putInOrder sorted.toArray rest).toList
  | short => return short

/-- Values sorted, by what a function gives for them, and possibly from the largest on. Values that are neither
below nor above each other keep their order. -/
def sorted (values : List Value) (key : Value) (isReverse : Bool) : Evaluated (List Value) := do
  let keyed ← values.mapM fun value => do
    match key with
    | .nothing => return (value, value)
    | key => return (← perform (.call key [value] []), value)
  let found ← inOrder (if isReverse then keyed.reverse else keyed)
  return (if isReverse then found.reverse else found).map Prod.snd

/-- The function for keys and the direction among named arguments. -/
def sortingGiven (given : Given) : Evaluated (Value × Bool) := do
  match ← ({ named := given.named } : Given).arranged "sort" 0 ["key", "reverse"] with
  | [key, direction] => return (key.getD .nothing, (← numberOr 0 direction) ≠ 0)
  | _ => giveUp

end SelectionGen.Evaluation
