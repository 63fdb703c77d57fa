/-! Names of the schema language. A name carries the proof that it is spelled as the grammar asks, so
whatever is built from a schema that was read can rely on that spelling without checking it again. -/
namespace SelectionGen.Sdl

/-- A name begins with a letter of the basic alphabet or an underscore. -/
def isNameStart (c : Char) : Bool := c.isAlpha || c == '_'

/-- The code points of the characters that names begin with. -/
theorem cases_of_isNameStart {c : Char} (start : isNameStart c = true) :
    (65 ≤ c.toNat ∧ c.toNat ≤ 90) ∨ (97 ≤ c.toNat ∧ c.toNat ≤ 122) ∨ c = '_' := by
  have ranges : (decide ('A'.val ≤ c.val ∧ c.val ≤ 'Z'.val) ||
      (decide ('a'.val ≤ c.val) && decide (c.val ≤ 'z'.val)) || c == '_') = true := start
  simp only [Bool.or_eq_true, Bool.and_eq_true, decide_eq_true_eq, beq_iff_eq, UInt32.le_iff_toNat_le] at ranges
  rcases ranges with (upper | lower) | underscore
  · exact .inl upper
  · exact .inr (.inl lower)
  · exact .inr (.inr underscore)

/-- After its first character a name may also hold decimal digits. -/
def isNameContinue (c : Char) : Bool := isNameStart c || c.isDigit

/-- The grammar of names: one start character, then any number of continuing ones. -/
def isName : List Char → Bool
  | [] => false
  | c :: rest => isNameStart c && rest.all isNameContinue

/-- A name as it stands in a schema. -/
structure Name where
  text : String
  spelled : isName text.toList = true
deriving DecidableEq

namespace Name

instance : ToString Name := ⟨Name.text⟩
instance : Repr Name := ⟨fun name _ => repr name.text⟩

theorem ext {a b : Name} (same : a.text = b.text) : a = b := by
  cases a; cases b; simp_all

/-- The name spelled by a text, if it is one. -/
def ofString? (text : String) : Option Name :=
  if spelled : isName text.toList = true then some ⟨text, spelled⟩ else none

/-- The longest name that starts with `c`, a start character, and goes on in `rest`. -/
def ofChars (c : Char) (rest : List Char) (start : isNameStart c = true) : Name where
  text := String.ofList (c :: rest.takeWhile isNameContinue)
  spelled := by
    have continues : (rest.takeWhile isNameContinue).all isNameContinue = true := by simp
    simp [isName, start]

end Name

end SelectionGen.Sdl
