import SelectionGen.Evaluation.Attribute
import SelectionGen.Evaluation.Creation
import SelectionGen.Evaluation.Member.Number

/-! Members that operators stand for, called by name. They answer for values of their own type and leave others
undecided. -/
namespace SelectionGen.Evaluation

open Target

/-- The operators by the names of their members. -/
def operatorOf? (name : String) : Option BinaryOperator :=
  let all : List BinaryOperator := [.or, .xor, .and, .shiftLeft, .shiftRight, .add, .subtract, .multiply,
    .multiplyMatrices, .divide, .floorDivide, .remainder, .power]
  all.find? fun operator => BinaryOperator.memberName operator == name

/-- The comparisons by the names of their members. -/
def comparisonOf? (name : String) : Option Comparison :=
  let all : List Comparison := [.equal, .different, .less, .lessOrEqual, .greater, .greaterOrEqual]
  all.find? fun comparison => Comparison.memberName comparison == name

/-- Whether numbers of a type answer for another number. -/
def answersFor (typeName : String) (other : Value.Quantity) : Bool :=
  match typeName, other with
  | "complex", _ | "float", .whole _ | "float", .real _ | "int", .whole _ | "bool", .whole _ => true
  | _, _ => false

/-- Whether a type compares its values with another one. -/
def comparesWith (owner : String) (value other : Value) : Evaluated Bool := do
  match other.quantity?, value.quantity? with
  | some number, some _ => return answersFor owner number
  | _, _ =>
    match owner with
    | "str" => return (other matches .text _)
    | "tuple" => return (other matches .tuple _)
    | "range" => return (other matches .range ..)
    | "bytes" | "bytearray" => return (← bytesOf? other).isSome
    | "list" => return (← listElements? other).isSome
    | "dict" => isMapping other
    | "set" | "frozenset" | "dict_keys" | "dict_items" => return (← setElements? other).isSome
    | "slice" => return (other matches .slice ..)
    | _ => return false

/-- What the type of a value says about a comparison. -/
def compareSlot (owner : String) (comparison : Comparison) (value other : Value) : Evaluated Value := do
  if owner = "object" || owner = "type" || owner = "function" then
    match comparison with
    | .equal => return if value.isIdentical other then .truth true else .undecided
    | .different =>
      match ← definedMember? value "__eq__" with
      | some member =>
        match ← callDefined member value [other] with
        | .undecided => return .undecided
        | answer => return .truth (!(← truthOf answer))
      | none => return if value.isIdentical other then .truth false else .undecided
    | _ => return .undecided
  else
    let a ← core value
    let b ← core other
    if !(← comparesWith owner a b) then
      return if a.isIdentical b && comparison = .equal then .truth true else .undecided
    match comparison with
    | .equal => return .truth ((← equalCore? a b).getD (a.isIdentical b))
    | .different => return .truth (!(← equalCore? a b).getD (a.isIdentical b))
    | _ => return (← orderCore? comparison a b (compare comparison)).getD .undecided

/-- A sequence as often as an argument says. -/
def repeatSlot (sequence count : Value) : Evaluated Value := do
  let _ ← indexOf count
  repeatedBy sequence count

/-- What the type of a value says about an operator between it and another value. -/
def operatorSlot (owner : String) (operator : BinaryOperator) (isReflected : Bool) (value other : Value) :
    Evaluated Value := do
  let a ← core value
  let b ← core other
  let (first, second) := if isReflected then (b, a) else (a, b)
  match a.quantity?, b.quantity? with
  | some _, some number =>
    let isOfTruths := owner = "bool" || answersFor owner number
    if isOfTruths then return (← plainResult? operator first second).getD .undecided
    else return .undecided
  | some _, none => return .undecided
  | none, _ =>
    match operator with
    | .add => return (← joined? value other a b).getD .undecided
    | .multiply => repeatSlot a other
    | .remainder =>
      if isReflected then
        match b with
        | .text _ => return (← plainResult? operator first second).getD .undecided
        | _ => return .undecided
      else return (← plainResult? operator first second).getD .undecided
    | _ =>
      let isSetLike (found : Value) : Evaluated Bool := do return (← setOf? found).isSome
      if owner = "dict" then
        if (← isMapping a) && (← isMapping b) then
          return (← plainResult? operator first second).getD .undecided
        else return .undecided
      else if (← isSetLike a) && !(← isSetLike b) then return .undecided
      else return (← plainResult? operator first second).getD .undecided

/-- What the type of a value says about an update of it. -/
def updateSlot (operator : BinaryOperator) (value other : Value) : Evaluated Value := do
  match operator with
  | .multiply => let _ ← indexOf other
  | _ => pure ()
  if ← changed? operator value other then return value else return .undecided

/-- A power, possibly reduced. -/
def powerSlot (owner : String) (isReflected : Bool) (value : Value) (given : Given) : Evaluated Value := do
  let other := (given.at? 0).getD .nothing
  match (given.at? 1).getD .nothing with
  | .nothing => operatorSlot owner .power isReflected value other
  | modulus =>
    match (← core value).quantity?, (← core other).whole?, (← core modulus).whole? with
    | some (.whole base), some exponent, some modulus => reducedPower base exponent modulus
    | some (.complex ..), _, _ => raise "ValueError" "complex modulo"
    | some (.real _), _, _ => refuse "pow() 3rd argument not allowed unless all arguments are integers"
    | _, _, _ => return .undecided

/-- The name of an attribute. -/
def attributeName (value : Value) : Evaluated String := do
  match ← core value with
  | .text name => return name
  | _ => refuse ("attribute name must be string, not '" ++ (← typeName value) ++ "'")

/-- The number that stands for a value, if nothing else than what the value is decides it. -/
def hashOf (value : Value) : Evaluated Value := do
  match (← core value).quantity?.bind hashOfNumber? with
  | some number => return .whole number
  | none => giveUp

/-- A value as messages show it, as its built-in type does it. -/
def textSlot (owner : String) (value : Value) : Evaluated Value := do
  match owner, ← cellOf? value with
  | "BaseException", some (.thing found) | "KeyError", some (.thing found) | "OSError", some (.thing found)
  | "ImportError", some (.thing found) | "SyntaxError", some (.thing found) =>
    return .text (← failureText found textOf)
  | "UnicodeDecodeError", some (.thing found) | "UnicodeEncodeError", some (.thing found) =>
    return .text (← failureText found textOf)
  | "object", _ => return .text (← describe value)
  | _, _ =>
    match ← core value with
    | .text text => return .text text
    | _ => return .text (← describeCore value)

/-- Calls a member that belongs to an operator, if it is one. -/
def callSlot? (owner name : String) (value : Value) (given : Given) : Evaluated (Option Value) := do
  let argument := (given.at? 0).getD .nothing
  let done (action : Evaluated Unit) : Evaluated (Option Value) := do
    action
    return some .nothing
  match comparisonOf? name with
  | some comparison => return some (← compareSlot owner comparison value argument)
  | none =>
    match name with
    | "__repr__" => return some (.text (← describeCore value))
    | "__str__" => return some (← textSlot owner value)
    | "__hash__" => return some (← hashOf value)
    | "__getattribute__" =>
      let member ← attributeName argument
      match ← cellOf? value with
      | some (.thing _) => return some (← memberOfThing value member)
      | _ => return some (← memberOf value member)
    | "__setattr__" =>
      let member ← attributeName argument
      done (changeMemberPlainly value member (some ((given.at? 1).getD .nothing)) elementsOf)
    | "__delattr__" =>
      let member ← attributeName argument
      done (changeMemberPlainly value member none elementsOf)
    | "__iter__" =>
      match ← sourceOfCore? (← core value) with
      | some source => return some source
      | none => return some value
    | "__next__" =>
      match ← next? value with
      | some found => return some found
      | none => raiseEnd .nothing
    | "__len__" => return some (.whole ((← sizeOfCore? (← core value)).getD 0))
    | "__contains__" => return some (.truth (← isInCore argument value (← core value)))
    | "__getitem__" => return some (← elementOfCore value (← core value) argument)
    | "__setitem__" =>
      done (setElementOfCore value (← core value) argument ((given.at? 1).getD .nothing))
    | "__delitem__" => done (deleteElementOfCore value (← core value) argument)
    | "__bool__" =>
      return some (.truth (← truthOf (← core value)))
    | "__int__" | "__index__" =>
      match ← wholeBehind? (← core value) with
      | some number => return some (.whole number)
      | none => giveUp
    | "__float__" => return some (.real (← realBehind (← core value)))
    | "__abs__" =>
      match (← core value).quantity? with
      | some number => return some (← sizeOfNumber number)
      | none => giveUp
    | "__neg__" => return some (← operateOne .negate (← core value))
    | "__pos__" => return some (← operateOne .keep (← core value))
    | "__invert__" => return some (← operateOne .invert (← core value))
    | "__divmod__" | "__rdivmod__" =>
      match (← core value).quantity?, (← core argument).quantity? with
      | some a, some b =>
        if !answersFor owner b then return some .undecided
        else if name = "__divmod__" then return some (← quotientAndRemainder a b)
        else return some (← quotientAndRemainder b a)
      | _, _ => return some .undecided
    | "__pow__" => return some (← powerSlot owner false value given)
    | "__rpow__" => return some (← powerSlot owner true value given)
    | _ =>
      let middle := String.ofList ((name.toList.drop 2).reverse.drop 2).reverse
      let without (text : String) : String := String.ofList (text.toList.drop 1)
      match operatorOf? middle with
      | some operator => return some (← operatorSlot owner operator false value argument)
      | none =>
        if Text.beginsWith "r" middle then
          match operatorOf? (without middle) with
          | some operator => return some (← operatorSlot owner operator true value argument)
          | none => return none
        else if Text.beginsWith "i" middle then
          match operatorOf? (without middle) with
          | some operator => return some (← updateSlot operator value argument)
          | none => return none
        else return none

end SelectionGen.Evaluation
