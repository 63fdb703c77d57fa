import SelectionGen.Evaluation.Elements
import SelectionGen.Evaluation.Interpolation

/-! Entries for mappings from other values: those of a mapping, of a thing that knows its keys, or pairs. -/
namespace SelectionGen.Evaluation

open Target

/-- Entries with others put into them. -/
def merged (found others : List (Value × Value)) : List (Value × Value) :=
  others.foldl (fun found (key, value) => Value.putInto key value found) found

/-- The pair at a place of a sequence of pairs. -/
def pairAt (place : Nat) (value : Value) : Evaluated (Value × Value) := do
  let elements ← tryCatch (elementsOf value) fun interruption => do
    match interruption with
    | .raised exception =>
      if ← isFailureOf exception "TypeError" then
        refuse ("cannot convert dictionary update sequence element #" ++ toString place
          ++ " to a sequence")
      else throw interruption
    | other => throw other
  match elements with
  | [key, value] =>
    checkKey key
    return (key, value)
  | _ =>
    raise "ValueError"
      ("dictionary update sequence element #" ++ toString place ++ " has length "
        ++ toString elements.length ++ "; 2 is required")

/-- The entries that a value has for a mapping. -/
def entriesOf (value : Value) : Evaluated (List (Value × Value)) := do
  let found ← core value
  if ← isMapping found then entries found
  else
    match ← memberIfAny? value "keys" with
    | some keys =>
      (← elementsOf (← perform (.call keys [] []))).mapM fun key => do
        return (key, ← elementOf value key)
    | none => (← elementsOf value).zipIdx.mapM fun (pair, place) => pairAt place pair

/-- Puts the entries that a value has into a mapping. -/
def mergeInto (mapping value : Value) : Evaluated Unit := do
  let others ← entriesOf value
  setEntries mapping (merged (← entries mapping) others)

end SelectionGen.Evaluation

/-! Operators between values. Types that code defines are asked first, the second operand before the first if
its type derives from that of the first; numbers, sets and mappings follow, then sequences, which are put
together or repeated. An update in place changes a value that can change. -/
namespace SelectionGen.Evaluation

open Target

/-- A value that nothing is known of. -/
def unknownValue : Value := .foreign "" ""

def isForeign : Value → Bool
  | .foreign .. => true
  | _ => false

/-- How many elements a sequence that is worked out can have. -/
def sizeLimit : Nat := 20000000

/-- What the type of one operand says about an operator, by the name of its member. -/
def answerFrom? (memberName : String) (value other : Value) : Evaluated (Option Value) := do
  match ← definedMember? value memberName with
  | some member =>
    match ← callDefined member value [other] with
    | .undecided => return none
    | answer => return some answer
  | none => return none

/-- What types that code defines say about an operator. -/
def definedResult? (operator : BinaryOperator) (a b : Value) : Evaluated (Option Value) := do
  let name := BinaryOperator.memberName operator
  let typeOfA ← typeOf a
  let typeOfB ← typeOf b
  let isSame := typeOfA.isIdentical typeOfB
  let ofA := answerFrom? ("__" ++ name ++ "__") a b
  let ofB : Evaluated (Option Value) := if isSame then return none else answerFrom? ("__r" ++ name ++ "__") b a
  if !isSame && (← derivesFrom typeOfB typeOfA) then
    match ← ofB with
    | some answer => return some answer
    | none => ofA
  else
    match ← ofA with
    | some answer => return some answer
    | none => ofB

/-- Whether elements of the first list are in the second, and whether those are to be kept. -/
def chosen (keepsPresent : Bool) (elements others : List Value) : List Value :=
  elements.filter fun element => others.any (fun other => other.isSameKey element) == keepsPresent

/-- The elements of two sets under an operator. -/
def setOperation? (operator : BinaryOperator) (a b : List Value) : Option (List Value) :=
  match operator with
  | .or => some (a ++ chosen false b a)
  | .and => some (chosen true a b)
  | .subtract => some (chosen false a b)
  | .xor => some (chosen false a b ++ chosen false b a)
  | _ => none

/-- The elements of a set, and whether the set is fixed. -/
def setOf? (value : Value) : Evaluated (Option (Bool × List Value)) := do
  match ← cellOf? value with
  | some (.set isFixed elements) => return some (isFixed, elements)
  | _ => return none

def isSetView : Value → Bool
  | .view .keys _ | .view .entries _ => true
  | _ => false

/-- Whether an operator is one between sets. -/
def isSetOperator : BinaryOperator → Bool
  | .or | .and | .subtract | .xor => true
  | _ => false

/-- Sets and views of mappings under an operator. -/
def setResult? (operator : BinaryOperator) (a b : Value) : Evaluated (Option Value) := do
  match ← setOf? a, ← setOf? b with
  | some (isFixed, as), some (_, bs) =>
    match setOperation? operator as bs with
    | some elements => return some (← allocate (.set isFixed elements))
    | none => return none
  | _, _ =>
    if isSetOperator operator && (isSetView a || isSetView b) then
      let as ← elementsOf a
      let bs ← elementsOf b
      match setOperation? operator (Value.distinct as) (Value.distinct bs) with
      | some elements => return some (← newSet false elements)
      | none => return none
    else return none

/-- Whether a value can be one of several types that are meant. -/
def isTypeChoice (value : Value) : Evaluated Bool := do
  match value with
  | .nothing | .foreign .. => return true
  | _ => isType value

/-- Bytes with values put behind percent signs; only where there is no percent sign. -/
def interpolatedBytes (bytes : List UInt8) (template values : Value) : Evaluated Value := do
  if bytes.contains 37 then giveUp
  match values with
  | .tuple [] => return template
  | _ =>
    let isText := (values matches .text _) || (← bytesOf? values).isSome
    if !isText && (← Interpolation.hasKeys values) then return template
    else refuse "not all arguments converted during bytes formatting"

/-- Numbers, texts with percent signs, sets, mappings and types under an operator. -/
def plainResult? (operator : BinaryOperator) (a b : Value) : Evaluated (Option Value) := do
  match a.quantity?, b.quantity? with
  | some x, some y =>
    match operator, a, b with
    | .or, .truth a, .truth b => return some (.truth (a || b))
    | .and, .truth a, .truth b => return some (.truth (a && b))
    | .xor, .truth a, .truth b => return some (.truth (a != b))
    | _, _, _ =>
      match ← numberOperation operator x y with
      | .undecided => return none
      | found => return some found
  | _, _ =>
    match operator, a with
    | .remainder, .text template => return some (← Interpolation.filled template b)
    | _, _ =>
      match operator, ← bytesOf? a with
      | .remainder, some bytes => return some (← interpolatedBytes bytes a b)
      | _, _ =>
        if operator = .or then
          if (← isMapping a) && (← isMapping b) then
            return some (← newMapping (merged (← entries a) (← entries b)))
          else if ((← isType a) && (← isTypeChoice b)) || ((← isType b) && (← isTypeChoice a)) then
            return some (.foreign "types.UnionType" "")
          else setResult? operator a b
        else setResult? operator a b

/-- Sequences put one behind the other, if the first value is one. -/
def joined? (value other a b : Value) : Evaluated (Option Value) := do
  let refused (name : String) : Evaluated (Option Value) := do
    refuse ("can only concatenate " ++ name ++ " (not \"" ++ (← typeName other) ++ "\") to " ++ name)
  match a, b with
  | .text x, .text y => return some (.text (x ++ y))
  | .text _, _ => refused "str"
  | .tuple xs, .tuple ys => return some (.tuple (xs ++ ys))
  | .tuple _, _ => refused "tuple"
  | _, _ =>
    match ← bytesOf? a with
    | some xs =>
      match ← bytesOf? b with
      | some ys =>
        if a matches .bytes _ then return some (.bytes (xs ++ ys))
        else return some (← allocate (.byteArray (xs ++ ys)))
      | none =>
        refuse ("can't concat " ++ (← typeName other) ++ " to " ++ (← typeName value))
    | none =>
      match ← listElements? a, ← listElements? b with
      | some xs, some ys => return some (← newList (xs ++ ys))
      | some _, none => refused "list"
      | none, _ => return none

/-- The elements one round after the other. -/
def repeated (count : Nat) (elements : List α) : List α := (List.replicate count elements).flatten

/-- How often a sequence of some size is to be repeated. -/
def repetitions (size : Nat) (number : Int) : Evaluated Nat := do
  if 63 < Number.Bits.length number then
    raiseOverflow "cannot fit 'int' into an index-sized integer"
  if sizeLimit < size * number.toNat then giveUp
  return number.toNat

/-- Whether a value is a sequence that can be repeated. -/
def isRepeatable (value : Value) : Evaluated Bool := do
  match value with
  | .range .. => return false
  | _ => isSequence value

/-- A sequence as often as a value says. -/
def repeatedBy (sequence count : Value) : Evaluated Value := do
  if !(← isPlace count) then
    refuse ("can't multiply sequence by non-int of type '" ++ (← typeName count) ++ "'")
  let times ← repetitions ((← sizeOfCore? sequence).getD 0) (← indexOf count)
  match sequence with
  | .text text => return .text (String.ofList (repeated times text.toList))
  | .bytes bytes => return .bytes (repeated times bytes)
  | .tuple elements => return .tuple (repeated times elements)
  | _ =>
    match ← cellOf? sequence with
    | some (.list elements) => newList (repeated times elements)
    | some (.byteArray bytes) => allocate (.byteArray (repeated times bytes))
    | _ => giveUp

/-- Raises that an operator says nothing about two values. -/
def refuseOperator (sign : String) (a b : Value) (hint : String) : Evaluated α := do
  refuse ("unsupported operand type(s) for " ++ sign ++ ": '" ++ (← typeName a) ++ "' and '"
    ++ (← typeName b) ++ "'" ++ hint)

/-- What is said where text is written in the manner of old. -/
def printHint (operator : BinaryOperator) (a : Value) : String :=
  match operator, a with
  | .shiftRight, .builtin "print" => ". Did you mean \"print(<message>, file=<output_stream>)\"?"
  | _, _ => ""

/-- Whether a projection has a member that takes part in an operator. -/
def takesPart (operator : BinaryOperator) (value : Value) : Evaluated Bool := do
  match value with
  | .object id =>
    let program := (← read).program
    let name := BinaryOperator.memberName operator
    return ((← get).store.object? id).any fun object =>
      ["__" ++ name ++ "__", "__r" ++ name ++ "__"].any fun name =>
        (program.accessor? object.classKey name).isSome
  | _ => return false

/-- Two values under an operator, refused with a sign where it says nothing about them. -/
def operateAs (sign hint : String) (operator : BinaryOperator) (a b : Value) : Evaluated Value := do
  if isForeign a || isForeign b then return unknownValue
  if (← takesPart operator a) || (← takesPart operator b) then giveUp
  match ← definedResult? operator a b with
  | some result => return result
  | none =>
    let coreA ← core a
    let coreB ← core b
    match ← plainResult? operator coreA coreB with
    | some result => return result
    | none =>
      match operator with
      | .add =>
        match ← joined? a b coreA coreB with
        | some result => return result
        | none => refuseOperator sign a b hint
      | .multiply =>
        if ← isRepeatable coreA then repeatedBy coreA b
        else if ← isRepeatable coreB then repeatedBy coreB a
        else refuseOperator sign a b hint
      | _ => refuseOperator sign a b hint

/-- Two values under an operator. -/
def operate (operator : BinaryOperator) (a b : Value) : Evaluated Value :=
  let sign := match operator with
    | .power => "** or pow()"
    | other => BinaryOperator.sign other
  operateAs sign (printHint operator a) operator a b

/-- Changes a value that can change by an operator, if it is one that is changed so. -/
def changed? (operator : BinaryOperator) (value other : Value) : Evaluated Bool := do
  let found ← core value
  match found, ← cellOf? found, operator with
  | .cell id, some (.list _), .add =>
    let others ← elementsOf other
    setCell id (.list (((← listElements? found).getD []) ++ others))
    return true
  | .cell id, some (.list elements), .multiply =>
    match ← repeatedBy found other with
    | result =>
      setCell id (.list ((← listElements? result).getD elements))
      return true
  | .cell id, some (.byteArray bytes), .add =>
    match ← bytesOf? (← core other) with
    | some others =>
      setCell id (.byteArray (bytes ++ others))
      return true
    | none => refuse ("can't concat " ++ (← typeName other) ++ " to " ++ (← typeName value))
  | .cell id, some (.byteArray bytes), .multiply =>
    setCell id (.byteArray ((← bytesOf? (← repeatedBy found other)).getD bytes))
    return true
  | .cell id, some (.set false elements), _ =>
    match ← setOf? (← core other) with
    | some (_, others) =>
      match setOperation? operator elements others with
      | some elements =>
        setCell id (.set false elements)
        return true
      | none => return false
    | none => return false
  | _, _, .or =>
    if ← isMapping found then
      mergeInto found other
      return true
    else return false
  | _, _, _ => return false

/-- A value updated by an operator. -/
def update (operator : BinaryOperator) (a b : Value) : Evaluated Value := do
  let name := BinaryOperator.memberName operator
  match ← answerFrom? ("__i" ++ name ++ "__") a b with
  | some result => return result
  | none =>
    if !isForeign b && (← changed? operator a b) then return a
    else operateAs (BinaryOperator.sign operator ++ "=") "" operator a b

/-- The name of the member for an operator in front of a value. -/
def UnaryOperator.memberName : UnaryOperator → String
  | .negate => "__neg__"
  | .keep => "__pos__"
  | .invert => "__invert__"
  | .not => "__not__"

/-- The sign of an operator in front of a value. -/
def UnaryOperator.sign : UnaryOperator → String
  | .negate => "-"
  | .keep => "+"
  | .invert => "~"
  | .not => "not"

/-- A value under an operator in front of it. -/
def operateOne (operator : UnaryOperator) (value : Value) : Evaluated Value := do
  if operator = .not then return .truth (!(← truthOf value))
  if isForeign value then return unknownValue
  match ← definedMember? value (UnaryOperator.memberName operator) with
  | some member => callDefined member value []
  | none =>
    match (← core value).quantity?.bind (signOperation? operator) with
    | some found => return found
    | none =>
      refuse ("bad operand type for unary " ++ UnaryOperator.sign operator ++ ": '"
        ++ (← typeName value) ++ "'")

end SelectionGen.Evaluation
