import SelectionGen.Evaluation.Memory
import SelectionGen.Number.Real

/-! Which values are the same: as things, and as keys of mappings. Numbers are the same key when they are
equal, whatever their types; a cell is the same as itself only. -/
namespace SelectionGen

namespace Value

/-- A number with its imaginary part. -/
inductive Quantity
  | whole (value : Int)
  | real (value : Float)
  | complex (real imaginary : Float)

/-- The number that a value is. -/
def quantity? : Value → Option Quantity
  | .truth value => some (.whole (if value then 1 else 0))
  | .whole value => some (.whole value)
  | .real value => some (.real value)
  | .complex first second => some (.complex first second)
  | _ => none

/-- The whole number that a value is. -/
def whole? : Value → Option Int
  | .truth value => some (if value then 1 else 0)
  | .whole value => some value
  | _ => none

def text? : Value → Option String
  | .text value => some value
  | _ => none

/-- Whether numbers are equal. -/
def Quantity.equals : Quantity → Quantity → Bool
  | .whole a, .whole b => a = b
  | .whole a, .real b | .real b, .whole a => Number.equalsWhole b a
  | .real a, .real b => a == b
  | .complex a b, .complex c d => a == c && b == d
  | .complex a b, .whole c | .whole c, .complex a b => Number.equalsWhole a c && b == 0.0
  | .complex a b, .real c | .real c, .complex a b => a == c && b == 0.0

mutual

/-- Whether two values are the same thing. Values without an identity of their own are the same when nothing
tells them apart. -/
def isIdentical : Value → Value → Bool
  | .nothing, .nothing | .undecided, .undecided | .ellipsis, .ellipsis => true
  | .truth a, .truth b => a == b
  | .whole a, .whole b => a = b
  | .real a, .real b => a.toBits == b.toBits
  | .complex a b, .complex c d => a.toBits == c.toBits && b.toBits == d.toBits
  | .text a, .text b => a == b
  | .bytes a, .bytes b => a == b
  | .tuple a, .tuple b => areIdentical a b
  | .type a, .type b => a == b
  | .builtin a, .builtin b => a == b
  | .member a b, .member c d => a == c && b == d
  | .bound a b, .bound c d => isIdentical a c && isIdentical b d
  | .cell a, .cell b => a == b
  | .projectionType a, .projectionType b => a = b
  | .object a, .object b | .state a, .state b | .fields a, .fields b => a == b
  | .foreign a b, .foreign c d => a == c && b == d
  | _, _ => false

/-- Whether values are the same, one by one. -/
def areIdentical : List Value → List Value → Bool
  | [], [] => true
  | a :: as, b :: bs => isIdentical a b && areIdentical as bs
  | _, _ => false

end

mutual

/-- Whether two values are the same key. -/
def isSameKey : Value → Value → Bool
  | .tuple a, .tuple b => areSameKeys a b
  | .range a b c, .range d e f => a = d && b = e && c = f
  | a, b =>
    match a.quantity?, b.quantity? with
    | some a, some b => a.equals b
    | _, _ => isIdentical a b

/-- Whether values are the same keys, one by one. -/
def areSameKeys : List Value → List Value → Bool
  | [], [] => true
  | a :: as, b :: bs => isSameKey a b && areSameKeys as bs
  | _, _ => false

end

/-- What a mapping holds under a key. -/
def lookUp (key : Value) : List (Value × Value) → Option Value
  | [] => none
  | (known, value) :: rest => if known.isSameKey key then some value else lookUp key rest

/-- The entries with a value put under a key. A key that is there already keeps its place. -/
def putInto (key value : Value) : List (Value × Value) → List (Value × Value)
  | [] => [(key, value)]
  | (known, old) :: rest =>
    if known.isSameKey key then (known, value) :: rest else (known, old) :: putInto key value rest

/-- The entries without a key. -/
def dropFrom (key : Value) (entries : List (Value × Value)) : List (Value × Value) :=
  entries.filter fun (known, _) => !known.isSameKey key

/-- The values without those that occurred before. -/
def distinct (values : List Value) : List Value :=
  (values.foldl (fun kept value =>
    if kept.any (isSameKey value) then kept else value :: kept) []).reverse

end Value

end SelectionGen
