/-! Whole numbers as bits without end: a negative number has ones in front. -/
namespace SelectionGen.Number.Bits

/-- All bits turned. -/
def complement (value : Int) : Int := -value - 1

/-- The bits that both numbers have. -/
def both (a b : Int) : Int :=
  let x := a.natAbs
  let y := b.natAbs
  if 0 ≤ a ∧ 0 ≤ b then Nat.land x y
  else if 0 ≤ a then x - Nat.land x (y - 1)
  else if 0 ≤ b then y - Nat.land y (x - 1)
  else complement (Nat.lor (x - 1) (y - 1))

/-- The bits that one number or the other has. -/
def either (a b : Int) : Int := complement (both (complement a) (complement b))

/-- The bits that only one of two numbers has. -/
def one (a b : Int) : Int :=
  let plain (value : Int) : Nat := if 0 ≤ value then value.toNat else (complement value).toNat
  let found : Int := Nat.xor (plain a) (plain b)
  if decide (0 ≤ a) = decide (0 ≤ b) then found else complement found

/-- The bits moved up. -/
def up (value : Int) (count : Nat) : Int := value * Nat.pow 2 count

/-- The bits moved down; those below the last place are lost. -/
def down (value : Int) (count : Nat) : Int := Int.fdiv value (Nat.pow 2 count)

/-- How many bits a number has in front of its sign. -/
def length (value : Int) : Nat := if value = 0 then 0 else value.natAbs.log2 + 1

/-- How many ones a natural number has, looked for in the given number of places. -/
def onesIn : Nat → Nat → Nat
  | 0, _ => 0
  | places + 1, value => value % 2 + onesIn places (value / 2)

/-- How many ones a number has without its sign. -/
def ones (value : Int) : Nat := onesIn (length value) value.natAbs

end SelectionGen.Number.Bits
