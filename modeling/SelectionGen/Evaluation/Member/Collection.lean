import SelectionGen.Evaluation.Arguments
import SelectionGen.Evaluation.Sorting

/-! Members of lists, tuples and ranges. -/
namespace SelectionGen.Evaluation

open Target

/-- The place in a sequence where an element that is equal to a value is first found from a place on. -/
def placeOf? (wanted : Value) : Nat → List Value → Evaluated (Option Nat)
  | _, [] => return none
  | place, element :: rest => do
    if ← areEqual element wanted then return some place else placeOf? wanted (place + 1) rest

/-- How many elements are equal to a value. -/
def countOf (wanted : Value) (elements : List Value) : Evaluated Value := do
  return .whole (← elements.filterM fun element => areEqual element wanted).length

/-- A bound of a search. -/
def searchBound (default : Nat) (size : Nat) (value : Option Value) : Evaluated Nat := do
  match value with
  | none => return default
  | some value =>
    if ← isPlace value then return (Places.bounded (← indexOf value) 0 size size).toNat
    else refuse "slice indices must be integers or have an __index__ method"

/-- The place of a value between optional bounds. -/
def placeBetween? (given : Given) (elements : List Value) : Evaluated (Option Nat) := do
  let first ← searchBound 0 elements.length (given.at? 1)
  let last ← searchBound elements.length elements.length (given.at? 2)
  placeOf? ((given.at? 0).getD .nothing) first ((elements.take last).drop first)

/-- Takes an element off a list. -/
def popFrom (id : CellId) (elements : List Value) (given : Given) : Evaluated Value := do
  let number ← numberOr (-1) (given.at? 0)
  if elements.isEmpty then raise "IndexError" "pop from empty list"
  let place := if number < 0 then number + elements.length else number
  if place < 0 ∨ elements.length ≤ place then raise "IndexError" "pop index out of range"
  setCell id (.list (elements.eraseIdx place.toNat))
  match elements[place.toNat]? with
  | some element => return element
  | none => giveUp

/-- Calls a member of a list. -/
def callOfList (name : String) (id : CellId) (elements : List Value) (given : Given) : Evaluated Value := do
  let argument := (given.at? 0).getD .nothing
  let become (elements : List Value) : Evaluated Value := do
    setCell id (.list elements)
    return .nothing
  match name with
  | "append" => become (elements ++ [argument])
  | "extend" =>
    let others ← elementsOf argument
    become (((← listElements? (.cell id)).getD elements) ++ others)
  | "insert" =>
    let place ← indexOf argument
    let place := (Places.bounded place 0 elements.length elements.length).toNat
    become (elements.insertIdx place ((given.at? 1).getD .nothing))
  | "pop" => popFrom id elements given
  | "remove" =>
    match ← placeOf? argument 0 elements with
    | some place => become (elements.eraseIdx place)
    | none => raise "ValueError" "list.remove(x): x not in list"
  | "clear" => become []
  | "copy" => newList elements
  | "count" => countOf argument elements
  | "index" =>
    match ← placeBetween? given elements with
    | some place => return .whole place
    | none => raise "ValueError" ((← describe argument) ++ " is not in list")
  | "reverse" => become elements.reverse
  | "sort" =>
    if !given.arguments.isEmpty then refuse "sort() takes no positional arguments"
    let (key, isReverse) ← sortingGiven given
    become (← sorted elements key isReverse)
  | "__reversed__" => newSource (.backwards "list_reverseiterator" (.cell id) elements.length)
  | "__sizeof__" => giveUp
  | _ => giveUp

/-- Calls a member of a tuple. -/
def callOfTuple (name : String) (elements : List Value) (given : Given) : Evaluated Value := do
  match name with
  | "count" => countOf ((given.at? 0).getD .nothing) elements
  | "index" =>
    match ← placeBetween? given elements with
    | some place => return .whole place
    | none => raise "ValueError" "tuple.index(x): x not in tuple"
  | "__getnewargs__" => return .tuple [.tuple elements]
  | _ => giveUp

/-- Calls a member of a range. -/
def callOfRange (name : String) (first last step : Int) (given : Given) : Evaluated Value := do
  let argument := (given.at? 0).getD .nothing
  let size := rangeSize first last step
  let inRange? (number : Int) : Option Nat :=
    let place := (number - first) / step
    if (number - first) % step = 0 ∧ 0 ≤ place ∧ place < size then some place.toNat else none
  match name with
  | "count" | "index" =>
    let place? ← match (← core argument).whole? with
      | some number => pure (inRange? number)
      | none => do placeOf? argument 0 (← elementsOf (.range first last step))
    if name = "count" then return .whole (if place?.isSome then 1 else 0)
    else
      match place?, (← core argument).whole? with
      | some place, _ => return .whole place
      | none, some number => raise "ValueError" (toString number ++ " is not in range")
      | none, none => raise "ValueError" "sequence.index(x): x not in sequence"
  | "__reversed__" =>
    let start := first + step * ((size : Int) - 1)
    newSource (.elements "range_iterator" (.range start (start - step * size) (-step)) 0)
  | "__reduce__" => return .tuple [.type "range", .tuple [.whole first, .whole last, .whole step]]
  | _ => giveUp

/-! Members of mappings and of views of them. -/

/-- Puts the same value under all keys of a new mapping. -/
def mappingOfKeys (given : Given) : Evaluated Value := do
  let value := (given.at? 1).getD .nothing
  let keys ← elementsOf ((given.at? 0).getD .nothing)
  keys.forM checkKey
  newMapping (merged [] (keys.map fun key => (key, value)))

/-- Takes a key out of a mapping. -/
def popKey (mapping : Value) (given : Given) : Evaluated Value := do
  let key := (given.at? 0).getD .nothing
  let found ← entries mapping
  checkKey key
  match Value.lookUp key found, given.at? 1 with
  | some value, _ =>
    setEntries mapping (Value.dropFrom key found)
    return value
  | none, some default => return default
  | none, none => raiseWith "KeyError" [key] []

/-- Calls a member of a mapping. -/
def callOfMapping (name : String) (mapping : Value) (given : Given) : Evaluated Value := do
  let argument := (given.at? 0).getD .nothing
  match name with
  | "keys" => return .view .keys mapping
  | "values" => return .view .values mapping
  | "items" => return .view .entries mapping
  | "get" =>
    checkKey argument
    return (Value.lookUp argument (← entries mapping)).getD ((given.at? 1).getD .nothing)
  | "setdefault" =>
    checkKey argument
    let found ← entries mapping
    match Value.lookUp argument found with
    | some value => return value
    | none =>
      let value := (given.at? 1).getD .nothing
      setEntries mapping (found ++ [(argument, value)])
      return value
  | "pop" => popKey mapping given
  | "popitem" =>
    let found ← entries mapping
    match found.getLast? with
    | some (key, value) =>
      setEntries mapping found.dropLast
      return .tuple [key, value]
    | none => raiseWith "KeyError" [.text "popitem(): dictionary is empty"] []
  | "update" =>
    given.checkCount name 0 1
    (given.at? 0).toList.forM (mergeInto mapping)
    let others := given.named.map fun (name, value) => (Value.text name, value)
    setEntries mapping (merged (← entries mapping) others)
    return .nothing
  | "clear" =>
    setEntries mapping []
    return .nothing
  | "copy" => newMapping (← entries mapping)
  | "fromkeys" => mappingOfKeys given
  | "__contains__" =>
    checkKey argument
    return .truth (Value.lookUp argument (← entries mapping)).isSome
  | "__getitem__" => elementOf mapping argument
  | "__reversed__" =>
    newSource (.remaining "dict_reversekeyiterator" ((← entries mapping).map Prod.fst).reverse)
  | _ => giveUp

/-- Whether two values have no element in common. -/
def areDisjoint (elements : List Value) (other : Value) : Evaluated Value := do
  let others ← elementsOf other
  others.forM checkKey
  return .truth (!others.any fun element => elements.any fun own => own.isSameKey element)

/-- Calls a member of a view of a mapping. -/
def callOfView (name : String) (kind : ViewKind) (mapping : Value) (given : Given) : Evaluated Value := do
  let shown := (← entries mapping).map (viewed kind)
  match name with
  | "isdisjoint" => areDisjoint shown ((given.at? 0).getD .nothing)
  | "__reversed__" =>
    let typeName := match kind with
      | .keys => "dict_reversekeyiterator"
      | .values => "dict_reversevalueiterator"
      | .entries => "dict_reverseitemiterator"
    newSource (.remaining typeName shown.reverse)
  | _ => giveUp

/-! Members of sets. -/

/-- The distinct elements of a value, each of which can be a key. -/
def distinctOf (value : Value) : Evaluated (List Value) := do
  let elements ← elementsOf value
  elements.forM checkKey
  return Value.distinct elements

/-- A set and other values one after the other under an operator. -/
def combined (operator : BinaryOperator) (elements : List Value) : List Value → Evaluated (List Value)
  | [] => return elements
  | other :: rest => do
    let others ← distinctOf other
    combined operator ((setOperation? operator elements others).getD elements) rest

/-- Whether there is an element that is the same key. -/
def hasKey (elements : List Value) (key : Value) : Bool := elements.any fun own => own.isSameKey key

/-- Makes sure that a value can be looked for in a set; a set can, for a fixed one with the same elements. -/
def keyForSet (value : Value) : Evaluated Value := do
  match ← setOf? value with
  | some (false, elements) => allocate (.set true elements)
  | _ =>
    checkKey value
    return value

/-- Calls a member of a set. -/
def callOfSet (name : String) (id : CellId) (isFixed : Bool) (elements : List Value) (given : Given) :
    Evaluated Value := do
  let argument := (given.at? 0).getD .nothing
  let become (elements : List Value) : Evaluated Value := do
    setCell id (.set isFixed elements)
    return .nothing
  let newLike (elements : List Value) : Evaluated Value := allocate (.set isFixed elements)
  match name with
  | "add" =>
    checkKey argument
    become (if hasKey elements argument then elements else elements ++ [argument])
  | "discard" | "remove" =>
    let key ← keyForSet argument
    if hasKey elements key then become (elements.filter fun own => !own.isSameKey key)
    else if name = "remove" then raiseWith "KeyError" [argument] []
    else return .nothing
  | "pop" =>
    match elements with
    | first :: rest =>
      let _ ← become rest
      return first
    | [] => raiseWith "KeyError" [.text "pop from an empty set"] []
  | "clear" => become []
  | "copy" => if isFixed then return .cell id else newLike elements
  | "union" => newLike (← combined .or elements given.arguments)
  | "intersection" => newLike (← combined .and elements given.arguments)
  | "difference" => newLike (← combined .subtract elements given.arguments)
  | "symmetric_difference" => newLike (← combined .xor elements given.arguments)
  | "update" => become (← combined .or elements given.arguments)
  | "intersection_update" => become (← combined .and elements given.arguments)
  | "difference_update" => become (← combined .subtract elements given.arguments)
  | "symmetric_difference_update" => become (← combined .xor elements given.arguments)
  | "isdisjoint" => areDisjoint elements argument
  | "issubset" => return .truth (isWithin elements (← distinctOf argument))
  | "issuperset" => return .truth (isWithin (← distinctOf argument) elements)
  | "__contains__" => return .truth (hasKey elements (← keyForSet argument))
  | "__reduce__" =>
    return .tuple [.type (if isFixed then "frozenset" else "set"), .tuple [← newList elements], .nothing]
  | _ => giveUp

end SelectionGen.Evaluation
