import SelectionGen.Evaluation.Comparison

/-! Values one by one. What can be gone through gives a source, and a source gives the next value until there
is none. A generator is run to its end when its first value is asked for, and what it gives is kept. -/
namespace SelectionGen.Evaluation

open Target

/-- A new source. -/
def newSource (source : Source) : Evaluated Value := allocate (.source source)

/-- The type of the source of a sequence's elements. -/
def sourceTypeName (sequence : Value) : Evaluated String := do
  match sequence with
  | .text text => return if text.toList.all fun c => c.toNat < 128 then "str_ascii_iterator" else "str_iterator"
  | .bytes _ => return "bytes_iterator"
  | .tuple _ => return "tuple_iterator"
  | .range .. => return "range_iterator"
  | _ => return if (← listElements? sequence).isSome then "list_iterator" else "bytearray_iterator"

/-- The element of a sequence at a place, if there is one. -/
def elementAt? (sequence : Value) (place : Nat) : Evaluated (Option Value) := do
  match sequence with
  | .text text => return (text.toList[place]?).map fun c => .text (String.ofList [c])
  | .bytes bytes => return (bytes[place]?).map fun byte => .whole byte.toNat
  | .tuple elements => return elements[place]?
  | .range first last step =>
    return if place < rangeSize first last step then some (.whole (first + step * place)) else none
  | _ =>
    match ← cellOf? sequence with
    | some (.list elements) => return elements[place]?
    | some (.byteArray bytes) => return (bytes[place]?).map fun byte => .whole byte.toNat
    | _ => return none

/-- Whether a value is a sequence of a built-in type. -/
def isSequence (value : Value) : Evaluated Bool := do
  match value with
  | .text _ | .bytes _ | .tuple _ | .range .. => return true
  | _ =>
    match ← cellOf? value with
    | some (.list _) | some (.byteArray _) => return true
    | _ => return false

/-- Raises that a value cannot be gone through. -/
def missElements (value : Value) : Evaluated α := do
  refuse ("'" ++ (← typeName value) ++ "' object is not iterable")

/-- The source of what a value of a built-in type consists of, if it can be gone through. -/
def sourceOfCore? (value : Value) : Evaluated (Option Value) := do
  if ← isSequence value then
    return some (← newSource (.elements (← sourceTypeName value) value 0))
  else if ← isMapping value then
    return some (← newSource (.entries .keys value 0 (← entries value).length))
  else
    match value with
    | .view kind mapping =>
      return some (← newSource (.entries kind mapping 0 (← entries mapping).length))
    | _ =>
      match ← cellOf? value with
      | some (.set _ elements) => return some (← newSource (.remaining "set_iterator" elements))
      | some (.source _) => return some value
      | some (.generator found) => return if found.typeName = "generator" then some value else none
      | _ => return none

/-- Whether a value gives values one by one. -/
def isSource (value : Value) : Evaluated Bool := do
  match ← cellOf? value with
  | some (.source _) => return true
  | some (.generator found) => return found.typeName = "generator"
  | some (.thing _) => return (← definedMember? value "__next__").isSome
  | _ => return false

/-- The source of what a value consists of. -/
def sourceOf (value : Value) : Evaluated Value := do
  match value with
  | .foreign .. => giveUp
  | _ =>
    match ← definedMember? value "__iter__" with
    | some .nothing => missElements value
    | some member =>
      let source ← callDefined member value []
      if ← isSource source then return source
      else refuse ("iter() returned non-iterator of type '" ++ (← typeName source) ++ "'")
    | none =>
      match ← sourceOfCore? (← core value) with
      | some source => return source
      | none =>
        match ← definedMember? value "__getitem__" with
        | some _ => newSource (.indexed value 0)
        | none => missElements value

/-- The next value of a source, if there is one. -/
def next? (source : Value) : Evaluated (Option Value) := do
  match ← perform (.next source) with
  | .tuple [value] => return some value
  | _ => return none

/-- The next values of some sources, if all have one. -/
def nextOfAll? : List Value → Evaluated (Option (List Value))
  | [] => return some []
  | source :: rest => do
    match ← next? source with
    | none => return none
    | some value => return (← nextOfAll? rest).map (value :: ·)

/-- The next values of sources that have to end together. The sources before have given a value, or have
ended if `hasEnded`. -/
def nextTogether? (place : Nat) (hasEnded : Bool) : List Value → Evaluated (Option (List Value))
  | [] => return if hasEnded then none else some []
  | source :: rest => do
    let before (count : Nat) : String :=
      if count = 1 then "argument 1" else "arguments 1-" ++ toString count
    match ← next? source, hasEnded with
    | some _, true =>
      raise "ValueError" ("zip() argument " ++ toString (place + 1) ++ " is longer than " ++ before place)
    | none, true => nextTogether? (place + 1) true rest
    | some value, false => return (← nextTogether? (place + 1) false rest).map (value :: ·)
    | none, false =>
      if place = 0 then nextTogether? (place + 1) true rest
      else
        raise "ValueError"
          ("zip() argument " ++ toString (place + 1) ++ " is shorter than " ++ before place)

/-- Takes what was raised for the end of something, if it is of one of the given types. -/
def endingAt (typeNames : List String) (attempt : Evaluated Value) : Evaluated (Option Value) := do
  tryCatch (some <$> attempt) fun interruption => do
    match interruption with
    | .raised exception =>
      if ← typeNames.anyM (isFailureOf exception) then return none else throw interruption
    | other => throw other

/-- The next value of a source of a built-in kind, and what is then still to come. -/
def stepOf (source : Source) : Evaluated (Option Value × Source) := do
  let ended := Source.remaining source.typeName []
  match source with
  | .elements typeName sequence place =>
    match ← elementAt? sequence place with
    | some value => return (some value, .elements typeName sequence (place + 1))
    | none => return (none, ended)
  | .backwards typeName sequence left =>
    match left with
    | 0 => return (none, ended)
    | left + 1 =>
      match ← elementAt? sequence left with
      | some value => return (some value, .backwards typeName sequence left)
      | none => return (none, ended)
  | .remaining typeName values =>
    match values with
    | [] => return (none, source)
    | value :: rest => return (some value, .remaining typeName rest)
  | .entries kind mapping place size =>
    let found ← entries mapping
    if found.length ≠ size then raise "RuntimeError" "dictionary changed size during iteration"
    match found[place]? with
    | some entry => return (some (viewed kind entry), .entries kind mapping (place + 1) size)
    | none => return (none, ended)
  | .mapped function sources =>
    match ← nextOfAll? sources with
    | some values => return (some (← perform (.call function values [])), source)
    | none => return (none, source)
  | .filtered condition inner =>
    let found ← repeatUntil do
      match ← next? inner with
      | none => return some none
      | some value =>
        let isKept ← match condition with
          | .nothing => truthOf value
          | function => do truthOf (← perform (.call function [value] []))
        return if isKept then some (some value) else none
    return (found, source)
  | .zipped isStrict sources =>
    let found ← if sources.isEmpty then pure none
      else if isStrict then nextTogether? 0 false sources else nextOfAll? sources
    return (found.map .tuple, source)
  | .numbered inner count =>
    match ← next? inner with
    | some value => return (some (.tuple [.whole count, value]), .numbered inner (count + 1))
    | none => return (none, source)
  | .called function sentinel =>
    match ← endingAt ["StopIteration"] (perform (.call function [] [])) with
    | some value =>
      if ← areEqual value sentinel then return (none, ended) else return (some value, source)
    | none => return (none, ended)
  | .indexed sequence place =>
    let attempt : Evaluated Value := do
      match ← definedMember? sequence "__getitem__" with
      | some member => callDefined member sequence [.whole place]
      | none => giveUp
    match ← endingAt ["IndexError", "StopIteration"] attempt with
    | some value => return (some value, .indexed sequence (place + 1))
    | none => return (none, ended)

/-- Runs the body of a generator to its end. Gives what it gave on the way and how it ended. -/
def runGenerator (scope : Scope) (body : List Statement) : Evaluated (List Value × Ending) := do
  modify fun memory => { memory with given := [] :: memory.given }
  let takeGiven : Evaluated (List Value) := do
    let memory ← get
    set { memory with given := memory.given.drop 1 }
    return (memory.given.headD []).reverse
  let attempt : Evaluated Ending := do
    let _ ← perform (.run scope body)
    return .returned .nothing
  let ending ← tryCatch attempt fun interruption => do
    match interruption with
    | .returned value => return .returned value
    | .raised exception =>
      if ← isFailureOf exception "StopIteration" then
        return .raised (← allocateThing (.type "RuntimeError")
          (.tuple [.text "generator raised StopIteration"]) [])
      else return .raised exception
    | .enough => return .open
    | other => do let _ ← takeGiven; throw other
  return (← takeGiven, ending)

/-- Raises that a generator has ended. -/
def raiseEnd (value : Value) : Evaluated α :=
  raiseWith "StopIteration" (match value with
    | .nothing => []
    | other => [other]) []

/-- The next value of a generator, or how it ends. -/
def advance (id : CellId) (generator : Generator) : Evaluated (Except Value Value) := do
  let become (progress : Progress) : Evaluated Unit :=
    setCell id (.generator { generator with progress })
  let give (values : List Value) (ending : Ending) : Evaluated (Except Value Value) := do
    match values, ending with
    | value :: rest, _ => become (.giving rest ending); return .ok value
    | [], .returned value => become (.giving [] (.returned .nothing)); return .error value
    | [], .raised exception =>
      become (.giving [] (.returned .nothing))
      throw (.raised exception)
    | [], .open => giveUp
  match generator.progress with
  | .running => raise "ValueError" "generator already executing"
  | .waiting scope body =>
    become .running
    let (values, ending) ← runGenerator scope body
    give values ending
  | .giving values ending => give values ending

/-- The next value of a source in brackets, or nothing at its end. -/
def nextOf (source : Value) : Evaluated Value := do
  match source with
  | .cell id =>
    match ← cell? id with
    | some (.source found) =>
      let (value?, rest) ← stepOf found
      setCell id (.source rest)
      match value? with
      | some value => return .tuple [value]
      | none => return .nothing
    | some (.generator found) =>
      match ← advance id found with
      | .ok value => return .tuple [value]
      | .error _ => return .nothing
    | some (.thing found) =>
      match ← memberOfType? found.type "__next__" with
      | some member =>
        match ← endingAt ["StopIteration"] (callDefined member source []) with
        | some value => return .tuple [value]
        | none => return .nothing
      | none => refuse ("'" ++ (← typeName source) ++ "' object is not an iterator")
    | _ => refuse ("'" ++ (← typeName source) ++ "' object is not an iterator")
  | _ => refuse ("'" ++ (← typeName source) ++ "' object is not an iterator")

/-- All values that are still to come from a source. -/
def drain (source : Value) : Evaluated (List Value) := do
  let kept ← allocateId (.list [])
  repeatUntil do
    let elements := (← listElements? (.cell kept)).getD []
    match ← next? source with
    | some value => setCell kept (.list (value :: elements)); return none
    | none => return some elements.reverse

/-- Goes on with the values of a source one by one, as long as the step says so. -/
def forEach (source : Value) (step : Value → Evaluated Bool) : Evaluated Bool :=
  repeatUntil do
    match ← next? source with
    | some value => if ← step value then return none else return some false
    | none => return some true

/-- What a value of a built-in type consists of, if that is at hand. -/
def elementsAtHand? (value : Value) : Evaluated (Option (List Value)) := do
  match value with
  | .text text => return some (text.toList.map fun c => .text (String.ofList [c]))
  | .bytes bytes => return some (bytes.map fun byte => .whole byte.toNat)
  | .tuple elements => return some elements
  | .range first last step =>
    let size := rangeSize first last step
    if loopLimit < size then giveUp
    return some ((List.range size).map fun (place : Nat) => .whole (first + step * place))
  | .view kind mapping => return some ((← entries mapping).map (viewed kind))
  | .state _ | .fields _ => return some ((← entries value).map Prod.fst)
  | _ =>
    match ← cellOf? value with
    | some (.list elements) | some (.set _ elements) => return some elements
    | some (.mapping found) => return some (found.map Prod.fst)
    | some (.byteArray bytes) => return some (bytes.map fun byte => .whole byte.toNat)
    | _ => return none

/-- All values that a value consists of. -/
def elementsOf (value : Value) : Evaluated (List Value) := do
  match ← elementsAtHand? value with
  | some elements => return elements
  | none => drain (← sourceOf value)

/-- A new list. -/
def newList (elements : List Value) : Evaluated Value := allocate (.list elements)

/-- A new mapping. -/
def newMapping (found : List (Value × Value)) : Evaluated Value := allocate (.mapping found)

/-- A new set. -/
def newSet (isFixed : Bool) (elements : List Value) : Evaluated Value := do
  elements.forM checkKey
  allocate (.set isFixed (Value.distinct elements))

end SelectionGen.Evaluation
