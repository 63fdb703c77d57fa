import SelectionGen.Evaluation.Iteration
import SelectionGen.Number.Bits

/-! Elements of values by place or by key. A place below zero counts from the end, and a slice takes the places
from one to another in steps. -/
namespace SelectionGen.Evaluation

open Target

/-- The places that a slice takes of so many. -/
structure Places where
  first : Int
  step : Int
  count : Nat
deriving DecidableEq, Repr

namespace Places

/-- The places in order. -/
def toList (places : Places) : List Nat :=
  (List.range places.count).map fun (index : Nat) => (places.first + places.step * index).toNat

/-- A bound of a slice, moved into the bounds of what is there. -/
def bounded (value low high size : Int) : Int :=
  let value := if value < 0 then value + size else value
  max low (min value high)

/-- The places of a slice whose bounds may be missing. -/
def ofBounds (first last : Option Int) (step : Int) (size : Nat) : Places :=
  let (low, high) : Int × Int := if 0 < step then (0, size) else (-1, (size : Int) - 1)
  let start := match first with
    | some value => bounded value low high size
    | none => if 0 < step then 0 else (size : Int) - 1
  let stop := match last with
    | some value => bounded value low high size
    | none => if 0 < step then size else -1
  ⟨start, step, rangeSize start stop step⟩

/-- The elements at the places. -/
def pick (places : Places) (elements : List α) : List α :=
  let found := elements.toArray
  places.toList.filterMap fun place => found[place]?

end Places

/-- The number in a slice, if it is given. -/
def sliceNumber? (value : Value) : Evaluated (Option Int) := do
  match value with
  | .nothing => return none
  | _ =>
    match (← core value).whole? with
    | some number => return some number
    | none =>
      if (← definedMember? value "__index__").isSome then return some (← indexOf value)
      else refuse "slice indices must be integers or None or have an __index__ method"

/-- The places that a slice takes of so many. -/
def placesOf (first last step : Value) (size : Nat) : Evaluated Places := do
  let step := (← sliceNumber? step).getD 1
  if step = 0 then raise "ValueError" "slice step cannot be zero"
  let first ← sliceNumber? first
  let last ← sliceNumber? last
  return Places.ofBounds first last step size

/-- Whether a value can stand for a place. -/
def isPlace (value : Value) : Evaluated Bool := do
  return (← core value).whole?.isSome || (← definedMember? value "__index__").isSome

/-- What sequences of a type are called where a place is refused. -/
def placesName (typeName : String) : String :=
  match typeName with
  | "str" => "string"
  | "bytes" => "byte"
  | other => other

/-- Refuses a key that is no place. -/
def refusePlace (sequenceType : String) (key : Value) : Evaluated α := do
  let given ← typeName key
  refuse (placesName sequenceType ++ " indices must be integers"
    ++ (if sequenceType = "str" then ", not '" ++ given ++ "'" else " or slices, not " ++ given))

/-- The place in a sequence that a number stands for. -/
def placeIn (typeName : String) (key : Value) (size : Nat) (missing : String) : Evaluated Nat := do
  if !(← isPlace key) then refusePlace typeName key
  let number ← indexOf key
  if typeName ≠ "range" ∧ 62 < Number.Bits.length number then
    raise "IndexError" "cannot fit 'int' into an index-sized integer"
  let place := if number < 0 then number + size else number
  if 0 ≤ place ∧ place < size then return place.toNat else raise "IndexError" missing

/-- What is said where a sequence ends before a place. -/
def missingPlace (typeName : String) : String :=
  match typeName with
  | "str" => "string index out of range"
  | "bytes" => "index out of range"
  | "range" => "range object index out of range"
  | other => other ++ " index out of range"

/-- An element or a slice of a sequence. -/
def ofSequence (typeName : String) (elements : List α) (key : Value) (ofOne : α → Value)
    (ofMany : List α → Evaluated Value) : Evaluated Value := do
  match key with
  | .slice first last step =>
    let places ← placesOf first last step elements.length
    ofMany (places.pick elements)
  | _ =>
    let place ← placeIn typeName key elements.length (missingPlace typeName)
    match elements[place]? with
    | some element => return ofOne element
    | none => giveUp

/-- Built-in types that can be given the types of what they hold. -/
def genericTypes : List String := ["list", "tuple", "dict", "set", "frozenset", "type"]

/-- What a mapping holds under a key; a type that derives from it can say what is meant by a missing one. -/
def ofMapping (value mapping key : Value) : Evaluated Value := do
  checkKey key
  match Value.lookUp key (← entries mapping) with
  | some found => return found
  | none =>
    match ← definedMember? value "__missing__" with
    | some member => callDefined member value [key]
    | none => raiseWith "KeyError" [key] []

/-- An element of a value of a built-in type. -/
def elementOfCore (value found key : Value) : Evaluated Value := do
  match found with
  | .text text =>
    ofSequence "str" text.toList key (fun c => .text (String.ofList [c]))
      fun characters => return .text (String.ofList characters)
  | .bytes bytes =>
    ofSequence "bytes" bytes key (fun byte => .whole byte.toNat) fun bytes => return .bytes bytes
  | .tuple elements => ofSequence "tuple" elements key id fun elements => return .tuple elements
  | .range first last step =>
    let size := rangeSize first last step
    match key with
    | .slice low high stride =>
      let places ← placesOf low high stride size
      let start := first + step * places.first
      let step := step * places.step
      return .range start (start + step * places.count) step
    | _ => return .whole (first + step * (← placeIn "range" key size (missingPlace "range")))
  | .type name =>
    if genericTypes.contains name then return .foreign "types.GenericAlias" name
    else refuse ("type '" ++ name ++ "' is not subscriptable")
  | .foreign .. => return .foreign "" ""
  | .projectionType key => refuse ("type '" ++ key.name ++ "' is not subscriptable")
  | _ =>
    if ← isMapping found then ofMapping value found key
    else
      match ← cellOf? found with
      | some (.list elements) => ofSequence "list" elements key id newList
      | some (.byteArray bytes) =>
        ofSequence "bytearray" bytes key (fun byte => .whole byte.toNat)
          fun bytes => allocate (.byteArray bytes)
      | some (.type definition) =>
        match ← memberOfType? found "__class_getitem__" with
        | some (.cell id) =>
          let function := match ← cell? id with
            | some (.wrapper _ inner) => inner
            | _ => .cell id
          perform (.call function [found, key] [])
        | some _ => return .foreign "types.GenericAlias" definition.name
        | none => refuse ("type '" ++ definition.name ++ "' is not subscriptable")
      | _ => refuse ("'" ++ (← typeName value) ++ "' object is not subscriptable")

/-- An element of a value. -/
def elementOf (value key : Value) : Evaluated Value := do
  match ← definedMember? value "__getitem__" with
  | some member => callDefined member value [key]
  | none => elementOfCore value (← core value) key

/-- Puts the entries of a mapping in place of the old ones. -/
def setEntries (mapping : Value) (found : List (Value × Value)) : Evaluated Unit := do
  match mapping with
  | .cell id => setCell id (.mapping found)
  | .fields id =>
    let fields := found.filterMap fun (key, value) =>
      match key, value with
      | .text name, .object below => some (name, some below)
      | .text name, .nothing => some (name, none)
      | _, _ => none
    modify fun memory => { memory with
      store := memory.store.update id fun object => { object with fields } }
  | .state id =>
    let isBare := (Value.lookUp (.text "fields") found).isNone
    modify fun memory => { memory with
      store := memory.store.update id fun object => { object with isBare } }
  | _ => giveUp

/-- Puts a value under a key of a mapping. -/
def setEntry (mapping key value : Value) : Evaluated Unit := do
  checkKey key
  setEntries mapping (Value.putInto key value (← entries mapping))

/-- A number as a byte. -/
def byteOf (value : Value) : Evaluated UInt8 := do
  let number ← indexOf value
  if 0 ≤ number ∧ number < 256 then return UInt8.ofNat number.toNat
  else raise "ValueError" "byte must be in range(0, 256)"

/-- The elements with those at some places replaced, place by place. -/
def replaceAt (elements : List α) (places : List Nat) (values : List α) : List α :=
  (places.zip values).foldl (fun elements (place, value) => elements.set place value) elements

/-- The elements without those at some places. -/
def dropAt (elements : List α) (places : List Nat) : List α :=
  elements.zipIdx.filterMap fun (element, place) => if places.contains place then none else some element

/-- The elements with those of a slice replaced by others. -/
def replaceSlice (places : Places) (elements values : List α) : Evaluated (List α) := do
  if places.step = 1 then
    let first := places.first.toNat
    return elements.take first ++ values ++ elements.drop (first + places.count)
  else if values.length = places.count then return replaceAt elements places.toList values
  else
    raise "ValueError"
      ("attempt to assign sequence of size " ++ toString values.length ++ " to extended slice of size "
        ++ toString places.count)

/-- Raises that elements of a value cannot be replaced. -/
def refuseAssignment (value : Value) : Evaluated α := do
  refuse ("'" ++ (← typeName value) ++ "' object does not support item assignment")

/-- Puts an element into a list. -/
def setInList (id : CellId) (elements : List Value) (key value : Value) : Evaluated Unit := do
  match key with
  | .slice first last step =>
    let places ← placesOf first last step elements.length
    let message := if places.step = 1 then "can only assign an iterable"
      else "must assign iterable to extended slice"
    let values ← tryCatch (elementsOf value) fun interruption => do
      match interruption with
      | .raised exception =>
        if ← isFailureOf exception "TypeError" then refuse message else throw interruption
      | other => throw other
    setCell id (.list (← replaceSlice places elements values))
  | _ =>
    let place ← placeIn "list" key elements.length "list assignment index out of range"
    setCell id (.list (elements.set place value))

/-- Puts a byte or bytes into an array of bytes. -/
def setInBytes (id : CellId) (bytes : List UInt8) (key value : Value) : Evaluated Unit := do
  match key with
  | .slice first last step =>
    let places ← placesOf first last step bytes.length
    let values ← match ← bytesOf? value with
      | some values => pure values
      | none => (← elementsOf value).mapM byteOf
    setCell id (.byteArray (← replaceSlice places bytes values))
  | _ =>
    let place ← placeIn "bytearray" key bytes.length (missingPlace "bytearray")
    setCell id (.byteArray (bytes.set place (← byteOf value)))

/-- Puts an element into a value of a built-in type. -/
def setElementOfCore (value found key new : Value) : Evaluated Unit := do
  if ← isMapping found then setEntry found key new
  else
    match found with
    | .cell id =>
      match ← cell? id with
      | some (.list elements) => setInList id elements key new
      | some (.byteArray bytes) => setInBytes id bytes key new
      | _ => refuseAssignment value
    | .foreign .. => giveUp
    | _ => refuseAssignment value

/-- Puts an element into a value. -/
def setElementOf (value key new : Value) : Evaluated Unit := do
  match ← definedMember? value "__setitem__" with
  | some member => let _ ← callDefined member value [key, new]
  | none => setElementOfCore value (← core value) key new

/-- Raises that elements of a value cannot be taken out. -/
def refuseDeletion (value key : Value) : Evaluated α := do
  let isOrdered ← match value with
    | .text _ | .bytes _ | .tuple _ | .range .. => pure true
    | _ => pure ((← cellOf? value) matches some (.thing _) | some (.set ..))
  let verb := if isOrdered && (← isPlace key) then "doesn't" else "does not"
  refuse ("'" ++ (← typeName value) ++ "' object " ++ verb ++ " support item deletion")

/-- Takes an element out of a value of a built-in type. -/
def deleteElementOfCore (value found key : Value) : Evaluated Unit := do
  if ← isMapping found then
    checkKey key
    let known ← entries found
    match Value.lookUp key known with
    | some _ => setEntries found (Value.dropFrom key known)
    | none => raiseWith "KeyError" [key] []
  else
    match ← cellOf? found, found, key with
    | some (.list elements), .cell id, .slice first last step =>
      let places ← placesOf first last step elements.length
      setCell id (.list (dropAt elements places.toList))
    | some (.list elements), .cell id, _ =>
      let place ← placeIn "list" key elements.length "list assignment index out of range"
      setCell id (.list (elements.eraseIdx place))
    | some (.byteArray bytes), .cell id, .slice first last step =>
      let places ← placesOf first last step bytes.length
      setCell id (.byteArray (dropAt bytes places.toList))
    | some (.byteArray bytes), .cell id, _ =>
      let place ← placeIn "bytearray" key bytes.length (missingPlace "bytearray")
      setCell id (.byteArray (bytes.eraseIdx place))
    | _, _, _ => refuseDeletion value key

/-- Takes an element out of a value. -/
def deleteElementOf (value key : Value) : Evaluated Unit := do
  match ← definedMember? value "__delitem__" with
  | some member => let _ ← callDefined member value [key]
  | none => deleteElementOfCore value (← core value) key

/-- Whether a text is within another one. -/
def isPartOf (part text : List Char) : Bool :=
  match text with
  | [] => part.isEmpty
  | _ :: rest => part.isPrefixOf text || isPartOf part rest

/-- Whether bytes are within others. -/
def areBytesWithin (part bytes : List UInt8) : Bool :=
  match bytes with
  | [] => part.isEmpty
  | _ :: rest => part.isPrefixOf bytes || areBytesWithin part rest

/-- Whether some value of a source is equal to a value. -/
def isAmong (element source : Value) : Evaluated Bool := do
  return !(← forEach source fun value => return !(← areEqual value element))

/-- Raises that nothing can be in a value. -/
def refuseMembership (value : Value) : Evaluated α := do
  refuse ("argument of type '" ++ (← typeName value) ++ "' is not iterable")

/-- Whether an element is in a value of a built-in type. -/
def isInCore (element value found : Value) : Evaluated Bool := do
  match found with
  | .text text =>
    match ← core element with
    | .text part => return isPartOf part.toList text.toList
    | _ => refuse ("'in <string>' requires string as left operand, not " ++ (← typeName element))
  | .tuple elements => elements.anyM fun other => areEqual other element
  | .range first last step =>
    match (← core element).whole? with
    | some number =>
      let inBounds := if 0 < step then first ≤ number ∧ number < last
        else last < number ∧ number ≤ first
      return decide inBounds && (number - first) % step = 0
    | none => (← elementsOf found).anyM fun other => areEqual other element
  | .foreign .. => giveUp
  | _ =>
    match ← bytesOf? found with
    | some bytes =>
      match ← bytesOf? (← core element) with
      | some part => return areBytesWithin part bytes
      | none =>
        if ← isPlace element then return bytes.contains (← byteOf element)
        else refuse ("a bytes-like object is required, not '" ++ (← typeName element) ++ "'")
    | none =>
      if ← isMapping found then
        checkKey element
        return (Value.lookUp element (← entries found)).isSome
      else
        match ← cellOf? found with
        | some (.list elements) => elements.anyM fun other => areEqual other element
        | some (.set _ elements) =>
          checkKey element
          return elements.any fun other => other.isSameKey element
        | some (.source _) | some (.generator _) => isAmong element found
        | _ =>
          match found with
          | .view kind mapping =>
            (← entries mapping).anyM fun entry => areEqual (viewed kind entry) element
          | _ => refuseMembership value

/-- Whether an element is in a value. -/
def isIn (element value : Value) : Evaluated Bool := do
  match ← definedMember? value "__contains__" with
  | some .nothing => refuseMembership value
  | some member => truthOf (← callDefined member value [element])
  | none =>
    if (← definedMember? value "__iter__").isSome || (← definedMember? value "__getitem__").isSome then
      isAmong element (← sourceOf value)
    else isInCore element value (← core value)

end SelectionGen.Evaluation
