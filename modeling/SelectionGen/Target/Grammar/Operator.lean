import SelectionGen.Target.Grammar.Reader

/-! Operators between operands, and how tightly they bind. -/
namespace SelectionGen.Target

def UnaryOperator.ofMark? : String → Option UnaryOperator
  | "-" => some .negate
  | "+" => some .keep
  | "~" => some .invert
  | _ => none

def BinaryOperator.ofMark? : String → Option BinaryOperator
  | "|" => some .or
  | "^" => some .xor
  | "&" => some .and
  | "<<" => some .shiftLeft
  | ">>" => some .shiftRight
  | "+" => some .add
  | "-" => some .subtract
  | "*" => some .multiply
  | "@" => some .multiplyMatrices
  | "/" => some .divide
  | "//" => some .floorDivide
  | "%" => some .remainder
  | "**" => some .power
  | _ => none

def Comparison.ofMark? : String → Option Comparison
  | "==" => some .equal
  | "!=" => some .different
  | "<" => some .less
  | "<=" => some .lessOrEqual
  | ">" => some .greater
  | ">=" => some .greaterOrEqual
  | _ => none

/-- What joins two operands. -/
inductive Connective
  | disjunction
  | conjunction
  | comparison (comparison : Comparison)
  | arithmetic (operator : BinaryOperator)
deriving DecidableEq, Repr

namespace Connective

/-- How tightly negation by word binds. -/
def negationLevel : Nat := 2

/-- How tightly comparisons bind. -/
def comparisonLevel : Nat := 3

/-- How tightly signs in front of an operand bind. -/
def signLevel : Nat := 10

def arithmeticLevel : BinaryOperator → Nat
  | .or => 4
  | .xor => 5
  | .and => 6
  | .shiftLeft | .shiftRight => 7
  | .add | .subtract => 8
  | .multiply | .multiplyMatrices | .divide | .floorDivide | .remainder => 9
  | .power => 11

/-- How tightly operands are joined. What binds more tightly is read first. -/
def level : Connective → Nat
  | disjunction => 0
  | conjunction => 1
  | comparison _ => comparisonLevel
  | arithmetic operator => arithmeticLevel operator

/-- How tightly what stands behind an arithmetic operator has to hold together. Powers go from right to
left and take signs, all else goes from left to right. -/
def levelBehind (operator : BinaryOperator) : Nat :=
  match operator with
  | .power => signLevel
  | _ => arithmeticLevel operator + 1

end Connective

namespace Grammar

/-- A comparison between two operands. -/
def comparison : Reader Comparison
  | ⟨.name "not", _⟩ :: ⟨.name "in", _⟩ :: rest => some (.outside, rest)
  | ⟨.name "is", _⟩ :: ⟨.name "not", _⟩ :: rest => some (.distinct, rest)
  | ⟨.name "is", _⟩ :: rest => some (.identical, rest)
  | ⟨.name "in", _⟩ :: rest => some (.inside, rest)
  | ⟨.mark text, _⟩ :: rest => (Comparison.ofMark? text).map fun found => (found, rest)
  | _ => none

/-- What joins an operand to the one in front. -/
def connective : Reader Connective := fun tokens =>
  match tokens with
  | ⟨.name "or", _⟩ :: rest => some (.disjunction, rest)
  | ⟨.name "and", _⟩ :: rest => some (.conjunction, rest)
  | _ =>
    match comparison tokens, tokens with
    | some (found, rest), _ => some (.comparison found, rest)
    | none, ⟨.mark text, _⟩ :: rest =>
      (BinaryOperator.ofMark? text).map fun found => (.arithmetic found, rest)
    | none, _ => none

end Grammar

end SelectionGen.Target
