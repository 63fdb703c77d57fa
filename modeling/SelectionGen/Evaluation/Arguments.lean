import SelectionGen.Evaluation.Operation

/-! Arguments of built-in functions: which are given by place and which by name, and what is said of those that a
function does not take. -/
namespace SelectionGen.Evaluation

open Target

/-- Arguments by place and by name. -/
structure Given where
  arguments : List Value := []
  named : List (String × Value) := []

namespace Given

/-- The argument at a place. -/
def at? (given : Given) (place : Nat) : Option Value := given.arguments[place]?

/-- Refuses arguments by name; `shown` is the function as messages show it. -/
def refuseNames (given : Given) (shown : String) : Evaluated Unit := do
  if !given.named.isEmpty then refuse (shown ++ " takes no keyword arguments")

/-- The arguments of a function in the order of their names; those in front, as many as `onlyByPlace`, cannot be
named. A function without upper bound on its arguments counts them itself. -/
def arranged (given : Given) (function : String) (onlyByPlace : Nat) (names : List String) :
    Evaluated (List (Option Value)) := do
  let total := onlyByPlace + names.length
  let count := given.arguments.length + given.named.length
  if total < count then
    refuse (function ++ "() takes at most " ++ Arity.arguments total ++ " (" ++ toString count ++ " given)")
  given.named.forM fun (name, _) => do
    match names.idxOf? name with
    | none => refuse ("'" ++ name ++ "' is an invalid keyword argument for " ++ function ++ "()")
    | some place =>
      if onlyByPlace + place < given.arguments.length then
        refuse ("argument for " ++ function ++ "() given by name ('" ++ name ++ "') and position ("
          ++ toString (onlyByPlace + place + 1) ++ ")")
  let byPlace := (List.range onlyByPlace).map given.at?
  return byPlace ++ names.zipIdx.map fun (name, place) =>
    (given.at? (onlyByPlace + place)).or (given.named.lookup name)

/-- Refuses numbers of arguments out of bounds. -/
def checkCount (given : Given) (function : String) (least most : Nat) : Evaluated Unit := do
  let count := given.arguments.length
  if count < least ∨ most < count then refuse (Arity.outOfBounds function least most count)

end Given

/-- The type of a value as messages about arguments show it. -/
def shownType (value : Value) : Evaluated String := do
  match value with
  | .nothing => return "None"
  | other => typeName other

/-- The text that an argument is. -/
def textOfArgument (function description : String) (value : Value) : Evaluated String := do
  match ← core value with
  | .text text => return text
  | _ =>
    refuse (function ++ "() " ++ description ++ " must be str, not " ++ (← shownType value))

/-- The number that an optional argument is. -/
def numberOr (default : Int) (value : Option Value) : Evaluated Int := do
  match value with
  | none => return default
  | some value => indexOf value

/-- A place that an optional argument stands for in so many, in bounds. -/
def boundOr (default : Nat) (size : Nat) (value : Option Value) : Evaluated Nat := do
  match value with
  | none | some .nothing => return default
  | some value =>
    let number ← sliceNumber? value
    return (Places.bounded (number.getD 0) 0 (size + 1) size).toNat

/-- How many pieces an optional argument allows; a number below zero allows all. -/
def limitOr (size : Nat) (value : Option Value) : Evaluated Nat := do
  let number ← numberOr (-1) value
  return if number < 0 then size + 1 else min number.toNat (size + 1)

end SelectionGen.Evaluation
