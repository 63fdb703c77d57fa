import SelectionGen.Evaluation.Expression

/-! Matching values against patterns. A pattern that matches tells which names it binds to what; they are bound when
all of it matches. -/
namespace SelectionGen.Evaluation

open Target

namespace Matching

/-- What a match binds; nothing if there is none. -/
abbrev Match := Option (List (String × Value))

/-- Matches one after the other, as long as they succeed. -/
def allOf (attempts : List (Evaluated Match)) : Evaluated Match := do
  match attempts with
  | [] => return some []
  | first :: rest =>
    match ← first with
    | none => return none
    | some bound => return (← allOf rest).map (bound ++ ·)

/-- The first match that succeeds. -/
def firstOf (attempts : List (Evaluated Match)) : Evaluated Match := do
  match attempts with
  | [] => return none
  | first :: rest =>
    match ← first with
    | some bound => return some bound
    | none => firstOf rest

/-- The elements of a value that matches as a sequence. -/
def sequenceElements? (value : Value) : Evaluated (Option (List Value)) := do
  match ← core value with
  | .text _ | .bytes _ => return none
  | found =>
    match found, ← cellOf? found with
    | .tuple elements, _ => return some elements
    | .range .., _ => elementsAtHand? found
    | _, some (.list elements) => return some elements
    | _, _ => return none

/-- A sequence against patterns, of which one can take what the others leave. -/
def matchSequence (each : Pattern → Value → Evaluated Match) (patterns : List Pattern)
    (elements : List Value) : Evaluated Match := do
  let pairs (patterns : List Pattern) (elements : List Value) : List (Evaluated Match) :=
    (patterns.zip elements).map fun (pattern, element) => each pattern element
  match patterns.findIdx? Pattern.isStarred with
  | none =>
    if patterns.length ≠ elements.length then return none else allOf (pairs patterns elements)
  | some place =>
    let after := patterns.length - place - 1
    if elements.length < place + after then return none
    else
      let middle := (elements.take (elements.length - after)).drop place
      let ofMiddle : Evaluated Match := do
        match (patterns[place]?).map Pattern.form with
        | some (.starred (some name)) => return some [(name, ← newList middle)]
        | _ => return some []
      allOf (pairs (patterns.take place) elements ++ [ofMiddle]
        ++ pairs (patterns.drop (place + 1)) (elements.drop (elements.length - after)))

/-- A mapping against patterns for some of its keys. -/
def matchMapping (scope : Scope) (each : Pattern → Value → Evaluated Match) (written : List KeyPattern)
    (rest : Option String) (value : Value) : Evaluated Match := do
  let found ← core value
  if !(← isMapping found) then return none
  let known ← entries found
  let keys ← written.mapM fun entry => evaluate scope entry.key
  keys.forM checkKey
  match keys.mapM fun key => Value.lookUp key known with
  | none => return none
  | some values =>
    match ← allOf ((written.zip values).map fun (entry, value) => each entry.pattern value) with
    | none => return none
    | some bound =>
      match rest with
      | none => return some bound
      | some name =>
        let left := keys.foldl (fun left key => Value.dropFrom key left) known
        return some (bound ++ [(name, ← newMapping left)])

/-- Built-in types whose values match a pattern in brackets themselves. -/
def wholeTypes : List String :=
  ["bool", "bytearray", "bytes", "dict", "float", "frozenset", "int", "list", "set", "str", "tuple"]

/-- The names of the members that patterns by place are for. -/
def placeNames (type : Value) (count : Nat) : Evaluated (List String) := do
  let shown ← nameOfType type
  let refused (all : Nat) : Evaluated (List String) :=
    refuse (shown ++ "() accepts " ++ toString all ++ " positional sub-pattern"
      ++ (if all = 1 then "" else "s") ++ " (" ++ toString count ++ " given)")
  match ← memberIfAny? type "__match_args__" with
  | none => refused 0
  | some (.tuple names) =>
    if names.length < count then refused names.length
    else
      (names.take count).mapM fun name => do
        match name with
        | .text name => return name
        | other =>
          refuse ("__match_args__ elements must be strings (got " ++ (← typeName other) ++ ")")
  | some other =>
    refuse (shown ++ ".__match_args__ must be a tuple (got " ++ (← typeName other) ++ ")")

/-- A value against a type and patterns for its members. -/
def matchObject (scope : Scope) (each : Pattern → Value → Evaluated Match) (type : Expression)
    (members : List Pattern) (named : List NamedPattern) (value : Value) : Evaluated Match := do
  let type ← evaluate scope type
  if isForeign type then giveUp
  if !(← isType type) then refuse "called match pattern must be a class"
  match ← isInstance { arguments := [value, type] } with
  | .truth false => return none
  | _ =>
    let isWhole := match type with
      | .type name => wholeTypes.contains name
      | _ => false
    let member (name : String) (pattern : Pattern) : Evaluated Match := do
      match ← memberIfAny? value name with
      | some found => each pattern found
      | none => return none
    let byPlace ← match members with
      | [] => pure []
      | [single] => do
        if isWhole then pure [each single value]
        else pure ((← placeNames type 1).map fun name => member name single)
      | several => do
        if isWhole then
          refuse ((← nameOfType type) ++ "() accepts 1 positional sub-pattern ("
            ++ toString several.length ++ " given)")
        else
          pure (((← placeNames type several.length).zip several).map fun (name, pattern) =>
            member name pattern)
    allOf (byPlace ++ named.map fun entry => member entry.name entry.pattern)

/-- A value against a pattern, to at most the given depth of patterns within patterns. -/
def matchUpTo (scope : Scope) : Nat → Pattern → Value → Evaluated Match
  | 0, _, _ => giveUp
  | depth + 1, pattern, value => do
    let each := matchUpTo scope depth
    match pattern.form with
    | .value wanted =>
      return if ← areEqual value (← evaluate scope wanted) then some [] else none
    | .constant wanted =>
      return if value.isIdentical (constantValue wanted) then some [] else none
    | .sequence patterns =>
      match ← sequenceElements? value with
      | some elements => matchSequence each patterns elements
      | none => return none
    | .mapping written rest => matchMapping scope each written rest value
    | .object type members named => matchObject scope each type members named value
    | .starred _ => giveUp
    | .capture inner name =>
      let bound ← match inner with
        | some inner => each inner value
        | none => pure (some [])
      return bound.map (· ++ name.toList.map fun name => (name, value))
    | .alternatives patterns => firstOf (patterns.map fun pattern => each pattern value)

end Matching

/-- What a pattern binds to match a value; nothing if it does not match. -/
def matched (scope : Scope) (pattern : Pattern) (value : Value) : Evaluated Matching.Match := do
  if isForeign value then giveUp
  Matching.matchUpTo scope (pattern.depth .ofTree + 1) pattern value

end SelectionGen.Evaluation
