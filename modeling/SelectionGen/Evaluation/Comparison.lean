import SelectionGen.Evaluation.Description

/-! Comparing values: whether a value is anything, which values are equal, which comes first, and which can
be keys. A type that code defines can answer for its values. -/
namespace SelectionGen.Evaluation

open Target

/-- A member that code defines in the type of a value, for values that have such a type. -/
def definedMember? (value : Value) (name : String) : Evaluated (Option Value) := do
  match ← cellOf? value with
  | some (.thing found) =>
    match ← memberOfType? found.type name with
    | some member => return if isDefined member then some member else none
    | none => return none
  | _ => return none

/-- Calls a member of a type on a value. -/
def callDefined (member value : Value) (arguments : List Value) : Evaluated Value := do
  let type ← typeOf value
  perform (.call (← bindMember member value type "") arguments [])

/-- The number that a value stands for as a place or a size. -/
def indexOf (value : Value) : Evaluated Int := do
  match (← core value).whole? with
  | some number => return number
  | none =>
    match ← definedMember? value "__index__" with
    | some member =>
      match (← callDefined member value []).whole? with
      | some number => return number
      | none => refuse "__index__ returned non-int"
    | none =>
      refuse ("'" ++ (← typeName value) ++ "' object cannot be interpreted as an integer")

/-- How many numbers a range has. -/
def rangeSize (first last step : Int) : Nat :=
  if 0 < step then ((last - first + step - 1) / step).toNat
  else if step < 0 then ((first - last - step - 1) / (-step)).toNat
  else 0

/-- How many elements a value has, if it has elements. -/
def sizeOfCore? (value : Value) : Evaluated (Option Nat) := do
  match value with
  | .text text => return some text.length
  | .bytes bytes => return some bytes.length
  | .tuple elements => return some elements.length
  | .range first last step => return some (rangeSize first last step)
  | .view _ mapping => return some (← entries mapping).length
  | .state _ | .fields _ => return some (← entries value).length
  | _ =>
    match ← cellOf? value with
    | some (.list elements) | some (.set _ elements) => return some elements.length
    | some (.mapping found) => return some found.length
    | some (.byteArray bytes) => return some bytes.length
    | _ => return none

/-- The size that a value gives for itself. -/
def checkedSize (given : Value) : Evaluated Nat := do
  let size ← indexOf given
  if size < 0 then raise "ValueError" "__len__() should return >= 0"
  else return size.toNat

/-- How many elements a value has. -/
def sizeOf (value : Value) : Evaluated Nat := do
  match ← definedMember? value "__len__" with
  | some member => checkedSize (← callDefined member value [])
  | none =>
    match ← sizeOfCore? (← core value) with
    | some size => return size
    | none => refuse ("object of type '" ++ (← typeName value) ++ "' has no len()")

/-- Whether a value is anything. -/
def truthOf (value : Value) : Evaluated Bool := do
  match value with
  | .nothing => return false
  | .truth value => return value
  | .whole value => return value != 0
  | .real value => return value != 0.0
  | .complex first second => return first != 0.0 || second != 0.0
  | .object id =>
    match (← get).store.object? id with
    | none => return true
    | some object =>
      match (← read).program.isAnything object.classKey with
      | .ok answer => return answer
      | .error error => raise error.typeName error.message
  | .foreign .. => giveUp
  | _ =>
    match ← definedMember? value "__bool__" with
    | some member =>
      match ← callDefined member value [] with
      | .truth answer => return answer
      | other => refuse ("__bool__ should return bool, returned " ++ (← typeName other))
    | none =>
      match ← definedMember? value "__len__" with
      | some member => return (← checkedSize (← callDefined member value [])) != 0
      | none =>
        match ← core value with
        | .whole number => return number != 0
        | .real number => return number != 0.0
        | other => return (← sizeOfCore? other) != some 0

/-- Whether two values are equal, asking for parts of them by way of a task. -/
def areEqual (a b : Value) : Evaluated Bool := do
  if a.isIdentical b && !(a matches .real _) then return true
  match ← perform (.equal a b) with
  | .truth answer => return answer
  | _ => giveUp

/-- Whether values are equal, one by one. -/
def allEqual : List Value → List Value → Evaluated Bool
  | [], [] => return true
  | a :: as, b :: bs => do if ← areEqual a b then allEqual as bs else return false
  | _, _ => return false

/-- Whether each entry of a mapping is in another one. -/
def entriesWithin : List (Value × Value) → List (Value × Value) → Evaluated Bool
  | [], _ => return true
  | (key, value) :: rest, others => do
    match Value.lookUp key others with
    | some other => if ← areEqual value other then entriesWithin rest others else return false
    | none => return false

/-- The distinct elements of a value that compares as a set does. -/
def setElements? (value : Value) : Evaluated (Option (List Value)) := do
  match value with
  | .view .keys mapping => return some ((← entries mapping).map Prod.fst)
  | .view .entries mapping => return some ((← entries mapping).map (viewed .entries))
  | _ =>
    match ← cellOf? value with
    | some (.set _ elements) => return some elements
    | _ => return none

/-- The elements of a list. -/
def listElements? (value : Value) : Evaluated (Option (List Value)) := do
  match ← cellOf? value with
  | some (.list elements) => return some elements
  | _ => return none

/-- The bytes of a value that holds bytes. -/
def bytesOf? (value : Value) : Evaluated (Option (List UInt8)) := do
  match value with
  | .bytes bytes => return some bytes
  | _ =>
    match ← cellOf? value with
    | some (.byteArray bytes) => return some bytes
    | _ => return none

/-- Whether a value is a mapping. -/
def isMapping (value : Value) : Evaluated Bool := do
  match value with
  | .state _ | .fields _ => return true
  | _ =>
    match ← cellOf? value with
    | some (.mapping _) => return true
    | _ => return false

/-- Whether elements are among others, as keys. -/
def isWithin (elements others : List Value) : Bool :=
  elements.all fun element => others.any fun other => other.isSameKey element

/-- Whether two values of built-in types are equal, if they can be compared. -/
def equalCore? (a b : Value) : Evaluated (Option Bool) := do
  match a, b with
  | .text a, .text b => return some (a == b)
  | .tuple as, .tuple bs => return some (← allEqual as bs)
  | .range a b c, .range d e f =>
    let size := rangeSize a b c
    return some (size = rangeSize d e f && (size = 0 || a = d && (size = 1 || c = f)))
  | .slice a b c, .slice d e f => return some (← allEqual [a, b, c] [d, e, f])
  | _, _ =>
    match a.quantity?, b.quantity? with
    | some a, some b => return some (a.equals b)
    | _, _ =>
      match ← bytesOf? a, ← bytesOf? b with
      | some a, some b => return some (a == b)
      | _, _ =>
        match ← listElements? a, ← listElements? b with
        | some as, some bs => return some (← allEqual as bs)
        | _, _ =>
          match ← setElements? a, ← setElements? b with
          | some as, some bs => return some (as.length = bs.length && isWithin as bs)
          | _, _ =>
            if (← isMapping a) && (← isMapping b) then
              let found ← entries a
              let others ← entries b
              return some (found.length = others.length && (← entriesWithin found others))
            else return if a.isIdentical b then some true else none

/-- Whether one number is below another, if numbers have an order. -/
def belowNumber? : Value.Quantity → Value.Quantity → Option Bool
  | .whole a, .whole b => some (a < b)
  | .real a, .real b => some (a < b)
  | .whole a, .real b => some (Number.isAboveWhole b a)
  | .real a, .whole b => some (Number.isBelowWhole a b)
  | _, _ => none

/-- What a comparison says, by whether the first value is below, equal or above. -/
def answerOf (comparison : Comparison) (isBelow isEqual isAbove : Bool) : Bool :=
  match comparison with
  | .less => isBelow
  | .lessOrEqual => isBelow || isEqual
  | .greater => isAbove
  | .greaterOrEqual => isAbove || isEqual
  | .equal => isEqual
  | _ => !isEqual

/-- The text of a comparison. -/
def Comparison.sign : Comparison → String
  | .equal => "=="
  | .different => "!="
  | .less => "<"
  | .lessOrEqual => "<="
  | .greater => ">"
  | .greaterOrEqual => ">="
  | .identical => "is"
  | .distinct => "is not"
  | .inside => "in"
  | .outside => "not in"

/-- The member of a type that answers a comparison. -/
def Comparison.memberName : Comparison → String
  | .equal => "__eq__"
  | .different => "__ne__"
  | .less => "__lt__"
  | .lessOrEqual => "__le__"
  | .greater => "__gt__"
  | .greaterOrEqual => "__ge__"
  | _ => ""

/-- The comparison with the sides changed. -/
def Comparison.reflected : Comparison → Comparison
  | .less => .greater
  | .lessOrEqual => .greaterOrEqual
  | .greater => .less
  | .greaterOrEqual => .lessOrEqual
  | other => other

/-- Compares sequences at their first elements that differ, given how to compare those. -/
def compareSequences (comparison : Comparison) (compare : Value → Value → Evaluated Value) :
    List Value → List Value → Evaluated Value
  | a :: as, b :: bs => do
    if ← areEqual a b then compareSequences comparison compare as bs else compare a b
  | as, bs =>
    return .truth (answerOf comparison (as.length < bs.length) (as.length = bs.length)
      (bs.length < as.length))

/-- Compares two values of built-in types by order, if they have one. -/
def orderCore? (comparison : Comparison) (a b : Value) (compare : Value → Value → Evaluated Value) :
    Evaluated (Option Value) := do
  let answer (isBelow isEqual isAbove : Bool) : Option Value :=
    some (.truth (answerOf comparison isBelow isEqual isAbove))
  match a, b with
  | .text a, .text b => return answer (a < b) (a == b) (b < a)
  | .tuple as, .tuple bs => return some (← compareSequences comparison compare as bs)
  | _, _ =>
    match a.quantity?, b.quantity? with
    | some a, some b =>
      match belowNumber? a b, belowNumber? b a with
      | some isBelow, some isAbove => return answer isBelow (a.equals b) isAbove
      | _, _ => return none
    | _, _ =>
      match ← bytesOf? a, ← bytesOf? b with
      | some a, some b =>
        let (a, b) := (a.map UInt8.toNat, b.map UInt8.toNat)
        return answer (a < b) (a == b) (b < a)
      | _, _ =>
        match ← listElements? a, ← listElements? b with
        | some as, some bs => return some (← compareSequences comparison compare as bs)
        | _, _ =>
          match ← setElements? a, ← setElements? b with
          | some as, some bs =>
            let isEqual := as.length = bs.length && isWithin as bs
            return answer (as.length < bs.length && isWithin as bs) isEqual
              (bs.length < as.length && isWithin bs as)
          | _, _ => return none

/-- What a type that code defines says about a comparison, if it says anything. -/
def definedAnswer? (comparison : Comparison) (a b : Value) : Evaluated (Option Value) := do
  match ← definedMember? a (Comparison.memberName comparison) with
  | some member =>
    match ← callDefined member a [b] with
    | .undecided => return none
    | answer => return some answer
  | none =>
    if comparison = .different then
      match ← definedMember? a "__eq__" with
      | some member =>
        match ← callDefined member a [b] with
        | .undecided => return none
        | answer => return some (.truth (!(← truthOf answer)))
      | none => return none
    else return none

/-- The first answer of two values to a comparison. The second one is asked first if its type derives from
that of the first one. -/
def firstAnswer? (comparison : Comparison) (a b : Value) : Evaluated (Option Value) := do
  let typeOfA ← typeOf a
  let typeOfB ← typeOf b
  let isSecondFirst := !typeOfA.isIdentical typeOfB && (← derivesFrom typeOfB typeOfA)
  let ofA := definedAnswer? comparison a b
  let ofB := definedAnswer? (Comparison.reflected comparison) b a
  if isSecondFirst then
    match ← ofB with
    | some answer => return some answer
    | none => ofA
  else
    match ← ofA with
    | some answer => return some answer
    | none => ofB

/-- Compares two values, to at most the given depth of elements within elements. -/
def compareUpTo (comparison : Comparison) : Nat → Value → Value → Evaluated Value
  | 0, _, _ => giveUp
  | depth + 1, a, b => do
    match ← firstAnswer? comparison a b with
    | some answer => return answer
    | none =>
      let coreA ← core a
      let coreB ← core b
      match comparison with
      | .equal => return .truth ((← equalCore? coreA coreB).getD (a.isIdentical b))
      | .different => return .truth (!(← equalCore? coreA coreB).getD (a.isIdentical b))
      | _ =>
        match ← orderCore? comparison coreA coreB (compareUpTo comparison depth) with
        | some answer => return answer
        | none =>
          refuse ("'" ++ Comparison.sign comparison ++ "' not supported between instances of '"
            ++ (← typeName a) ++ "' and '" ++ (← typeName b) ++ "'")

/-- Compares two values. -/
def compare (comparison : Comparison) (a b : Value) : Evaluated Value :=
  compareUpTo comparison 200 a b

/-- Whether the first value is below the second. -/
def isBelow (a b : Value) : Evaluated Bool := do truthOf (← compare .less a b)

/-- The built-in types whose values can change and therefore are no keys. -/
def changingTypes : List String := ["list", "dict", "set", "bytearray", "slice", "dict_keys", "dict_items"]

/-- Makes sure that a value can be a key, to at most the given depth. -/
def checkKeyUpTo : Nat → Value → Evaluated Unit
  | 0, _ => giveUp
  | depth + 1, value => do
    match value with
    | .tuple elements => elements.forM (checkKeyUpTo depth)
    | _ =>
      let refused : Evaluated Unit := do
        refuse ("unhashable type: '" ++ (← typeName value) ++ "'")
      match ← cellOf? value with
      | some (.thing found) =>
        match ← memberOfType? found.type "__hash__" with
        | some .nothing => refused
        | some (.member owner _) => if changingTypes.contains owner then refused
        | some member =>
          match ← callDefined member value [] with
          | .whole _ | .truth _ => return
          | _ => refuse "__hash__ method should return an integer"
        | none => return
      | _ =>
        match ← typeOf value with
        | .type name => if changingTypes.contains name then refused
        | .projectionType key =>
          if ((← read).program.accessor? key "__eq__").isSome then refused
        | _ => return

/-- Makes sure that a value can be a key. -/
def checkKey (value : Value) : Evaluated Unit := checkKeyUpTo 100 value

end SelectionGen.Evaluation
