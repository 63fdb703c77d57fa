/-! Whole numbers as people write them: blanks around, a sign in front, and single underscores between
digits of any script. Some bases may be marked in front of the digits. -/
namespace SelectionGen.Text

/-! Characters that count as blank: those that only take room, and the separators of lines and of records. -/

/-- The blank characters of the basic alphabet that are no separators of records. -/
def isPlainBlank (c : Char) : Bool := c == ' ' || ('\t' ≤ c && c ≤ '\r')

def isBlank (c : Char) : Bool :=
  isPlainBlank c || ('\x1c' ≤ c && c ≤ '\x1f')
    || ['\x85', '\xa0', '\u1680', '\u2028', '\u2029', '\u202f', '\u205f', '\u3000'].contains c
    || ('\u2000' ≤ c && c ≤ '\u200a')

/-- The characters without those at either end that a test accepts. -/
def stripWith (test : Char → Bool) (text : List Char) : List Char :=
  ((text.dropWhile test).reverse.dropWhile test).reverse

/-- The characters without the blanks at both ends. -/
def strip (text : List Char) : List Char := stripWith isBlank text

/-! Decimal digits of all scripts. The digits of a script follow each other, so the place of its zero tells
them all. The table is that of Unicode 14. -/

/-- The code points of the digits for zero. -/
def zeroDigits : List Nat :=
  [
    0x30, 0x660, 0x6F0, 0x7C0, 0x966, 0x9E6, 0xA66, 0xAE6, 0xB66, 0xBE6, 0xC66, 0xCE6, 0xD66, 0xDE6,
    0xE50, 0xED0, 0xF20, 0x1040, 0x1090, 0x17E0, 0x1810, 0x1946, 0x19D0, 0x1A80, 0x1A90, 0x1B50,
    0x1BB0, 0x1C40, 0x1C50, 0xA620, 0xA8D0, 0xA900, 0xA9D0, 0xA9F0, 0xAA50, 0xABF0, 0xFF10, 0x104A0,
    0x10D30, 0x11066, 0x110F0, 0x11136, 0x111D0, 0x112F0, 0x11450, 0x114D0, 0x11650, 0x116C0,
    0x11730, 0x118E0, 0x11950, 0x11C50, 0x11D50, 0x11DA0, 0x16A60, 0x16AC0, 0x16B50, 0x1D7CE,
    0x1D7D8, 0x1D7E2, 0x1D7EC, 0x1D7F6, 0x1E140, 0x1E2F0, 0x1E950, 0x1FBF0
  ]

/-- The value of a decimal digit of any script. -/
def decimalDigit? (c : Char) : Option Nat :=
  (zeroDigits.find? fun first => first ≤ c.toNat && c.toNat ≤ first + 9).map (c.toNat - ·)

namespace Whole

/-- The value of a digit in the largest base; letters go on behind nine. -/
def valueOf? (c : Char) : Option Nat :=
  if c.isDigit then some (c.toNat - '0'.toNat)
  else if 'a' ≤ c ∧ c ≤ 'z' then some (c.toNat - 'a'.toNat + 10)
  else if 'A' ≤ c ∧ c ≤ 'Z' then some (c.toNat - 'A'.toNat + 10)
  else none

/-- The value of a digit, if the base has it. -/
def digit? (base : Nat) (c : Char) : Option Nat := (valueOf? c).filter fun value => value < base

/-- Reads on behind a digit. -/
def digitsFrom (base value : Nat) : List Char → Option Nat
  | [] => some value
  | '_' :: c :: rest => do digitsFrom base (base * value + (← digit? base c)) rest
  | c :: rest => do digitsFrom base (base * value + (← digit? base c)) rest

def digits? (base : Nat) : List Char → Option Nat
  | [] => none
  | c :: rest => do digitsFrom base (← digit? base c) rest

/-- The letters that mark a base behind a zero. -/
def marks (base : Nat) : List Char :=
  match base with
  | 2 => ['b', 'B']
  | 8 => ['o', 'O']
  | 16 => ['x', 'X']
  | _ => []

/-- The digits behind the mark of their base, which an underscore may follow. -/
def unmarked (base : Nat) : List Char → List Char
  | '0' :: c :: '_' :: rest => if (marks base).contains c then rest else '0' :: c :: '_' :: rest
  | '0' :: c :: rest => if (marks base).contains c then rest else '0' :: c :: rest
  | text => text

/-- A text with the digits of all scripts written in the basic alphabet, and all blanks as plain ones. A
text in the basic alphabet stays as it is, so that separators of records in it are no blanks. -/
def inBasicAlphabet (text : List Char) : List Char :=
  if text.all fun c => c.toNat < 0x80 then text
  else text.map fun c =>
    match decimalDigit? c with
    | some value => Char.ofNat ('0'.toNat + value)
    | none => if isBlank c then ' ' else c

/-- How many digits a number in base ten can have. -/
def digitLimit : Nat := 4300

/-- How many digits too many a text begins with, if it is read in base ten and single underscores are
between them. -/
def tooManyDigits? (base : Nat) (text : List Char) : Option Nat :=
  let unsigned := match stripWith isPlainBlank (inBasicAlphabet text) with
    | '-' :: rest => rest
    | '+' :: rest => rest
    | rest => rest
  let run := unsigned.takeWhile fun c => c.isDigit || c == '_'
  let count := (run.filter Char.isDigit).length
  let isClean := run.head? != some '_' && run.getLast? != some '_'
    && (run.zip (run.drop 1)).all fun pair => pair != ('_', '_')
  if base == 10 && digitLimit < count && isClean then some count else none

/-- The number that a text spells, its digits not counted. -/
def ofTextOfAnyLength? (base : Nat) (text : String) : Option Int :=
  match stripWith isPlainBlank (inBasicAlphabet text.toList) with
  | '-' :: rest => (digits? base (unmarked base rest)).map fun value => -(value : Int)
  | '+' :: rest => (digits? base (unmarked base rest)).map fun value => (value : Int)
  | rest => (digits? base (unmarked base rest)).map fun value => (value : Int)

/-- The number that a text spells. -/
def ofText? (base : Nat) (text : String) : Option Int :=
  if (tooManyDigits? base text.toList).isSome then none else ofTextOfAnyLength? base text

end Whole

end SelectionGen.Text
