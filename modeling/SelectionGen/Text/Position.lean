/-! Lines and columns of a text. A line ends at a line feed, a carriage return or the two together, and
both numbers count from one, columns in code points. -/
namespace SelectionGen.Text

/-- A place in a text as a reader counts it. -/
structure Position where
  line : Nat
  column : Nat
deriving DecidableEq, Repr

namespace Position

/-- The place reached from `here` after `offset` more characters of the text. -/
def advance (here : Position) : List Char → Nat → Position
  | _, 0 => here
  | [], _ => here
  | '\r' :: '\n' :: rest, offset + 2 => advance ⟨here.line + 1, 1⟩ rest offset
  | c :: rest, offset + 1 =>
    let next := if c = '\n' ∨ c = '\r' then ⟨here.line + 1, 1⟩ else ⟨here.line, here.column + 1⟩
    advance next rest offset

/-- The place of the character that `offset` characters precede. -/
def ofOffset (text : String) (offset : Nat) : Position :=
  advance ⟨1, 1⟩ text.toList offset

end Position

end SelectionGen.Text
