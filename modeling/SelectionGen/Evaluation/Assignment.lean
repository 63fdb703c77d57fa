import SelectionGen.Evaluation.Attribute
import SelectionGen.Evaluation.Elements
import SelectionGen.Evaluation.Names

/-! Assigning values to targets: names, members, elements, and several targets that a value is taken apart for, one
of which can take what the others leave. -/
namespace SelectionGen.Evaluation

open Target

/-- The value of an expression. -/
def evaluate (scope : Scope) (expression : Expression) : Evaluated Value :=
  perform (.evaluate scope expression)

/-- At most so many values of a source. -/
def takeUpTo : Nat → Value → Evaluated (List Value)
  | 0, _ => return []
  | count + 1, source => do
    match ← next? source with
    | some value => return value :: (← takeUpTo count source)
    | none => return []

/-- The source of a value that is to be taken apart. -/
def sourceToUnpack (value : Value) : Evaluated Value := do
  let isSomeSource ← do
    if (← definedMember? value "__iter__").isSome || (← definedMember? value "__getitem__").isSome then
      pure true
    else pure (value matches .foreign ..)
  if isSomeSource then sourceOf value
  else
    match ← sourceOfCore? (← core value) with
    | some source => return source
    | none => refuse ("cannot unpack non-iterable " ++ (← typeName value) ++ " object")

/-- As many values as there are targets. -/
def unpackExactly (count : Nat) (value : Value) : Evaluated (List Value) := do
  let values ← takeUpTo (count + 1) (← sourceToUnpack value)
  if values.length < count then
    raise "ValueError"
      ("not enough values to unpack (expected " ++ toString count ++ ", got " ++ toString values.length ++ ")")
  else if count < values.length then
    raise "ValueError" ("too many values to unpack (expected " ++ toString count ++ ")")
  else return values

/-- Values for targets in front of one that takes many, the list for that one, and values behind it. -/
def unpackAround (before after : Nat) (value : Value) : Evaluated (List Value) := do
  let source ← sourceToUnpack value
  let first ← takeUpTo before source
  let least := before + after
  let few (count : Nat) : Evaluated (List Value) :=
    raise "ValueError"
      ("not enough values to unpack (expected at least " ++ toString least ++ ", got " ++ toString count ++ ")")
  if first.length < before then few first.length
  else
    let rest ← drain source
    if rest.length < after then few (before + rest.length)
    else
      let middle := rest.take (rest.length - after)
      return first ++ [← newList middle] ++ rest.drop (rest.length - after)

/-- Values for the elements of a target. -/
def unpackFor (targets : List Expression) (value : Value) : Evaluated (List Value) :=
  match targets.findIdx? Expression.isStarred with
  | none => unpackExactly targets.length value
  | some place => unpackAround place (targets.length - place - 1) value

/-- Assigns a value to a target, to at most the given depth of targets within targets. -/
def assignUpTo (scope : Scope) : Nat → Expression → Value → Evaluated Unit
  | 0, _, _ => giveUp
  | depth + 1, target, value => do
    match target.form with
    | .name name => bindName scope name value
    | .member owner name =>
      changeMember (← evaluate scope owner) (scope.kept name) (some value) elementsOf
    | .index owner key =>
      let owner ← evaluate scope owner
      setElementOf owner (← evaluate scope key) value
    | .starred inner => assignUpTo scope depth inner value
    | .tuple targets | .list targets =>
      let values ← unpackFor targets value
      (targets.zip values).forM fun (target, value) => assignUpTo scope depth target value
    | _ => giveUp

/-- Assigns a value to a target. -/
def assign (scope : Scope) (target : Expression) (value : Value) : Evaluated Unit :=
  assignUpTo scope (target.depth .ofTree + 1) target value

/-- Takes away what a target names, to at most the given depth of targets within targets. -/
def deleteUpTo (scope : Scope) : Nat → Expression → Evaluated Unit
  | 0, _ => giveUp
  | depth + 1, target => do
    match target.form with
    | .name name => unbindName scope name
    | .member owner name => changeMember (← evaluate scope owner) (scope.kept name) none elementsOf
    | .index owner key =>
      let owner ← evaluate scope owner
      deleteElementOf owner (← evaluate scope key)
    | .tuple targets | .list targets => targets.forM (deleteUpTo scope depth)
    | _ => giveUp

/-- Takes away what a target names. -/
def delete (scope : Scope) (target : Expression) : Evaluated Unit :=
  deleteUpTo scope (target.depth .ofTree + 1) target

end SelectionGen.Evaluation
