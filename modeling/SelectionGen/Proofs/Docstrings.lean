import Mathlib.Data.List.Basic
import SelectionGen.Target.Literal
import SelectionGen.Target.Module
import SelectionGen.Text.Split

/-! Documentation strings as literals. What a text is written as between triple quotes never closes them early and
holds no escape but those that were put in, so the literal ends with its own quotes and its value is the text again,
with a blank behind a final quote. Line ends become line feeds before any of that is looked at, which makes no
difference to how a text is written. -/
namespace SelectionGen

namespace Text

variable {c : Char} {front text : List Char}

theorem unifyLineEnds_cons (plain : c ≠ '\r') (text : List Char) :
    unifyLineEnds (c :: text) = c :: unifyLineEnds text :=
  unifyLineEnds.eq_4 c text (fun _ same _ => plain same) plain

/-- A text without carriage returns has its line ends as they are. -/
theorem unifyLineEnds_append (plain : '\r' ∉ front) (text : List Char) :
    unifyLineEnds (front ++ text) = front ++ unifyLineEnds text := by
  induction front with
  | nil => rfl
  | cons c rest ih =>
    obtain ⟨here, later⟩ := not_or.mp (List.mem_cons.not.mp plain)
    rw [List.cons_append, unifyLineEnds_cons (Ne.symm here), ih later, List.cons_append]

/-- A carriage return reaches over a line feed behind it and over nothing else. -/
theorem unifyLineEnds_append_cons (visible : c ≠ '\n') (front text : List Char) :
    unifyLineEnds (front ++ c :: text) = unifyLineEnds front ++ unifyLineEnds (c :: text) := by
  fun_induction unifyLineEnds front with
  | case1 => rfl
  | case2 rest ih => rw [List.cons_append, List.cons_append, unifyLineEnds, ih, List.cons_append]
  | case3 rest alone ih =>
    have stillAlone : ∀ more, rest ++ c :: text = '\n' :: more → False := by
      intro more same
      cases rest with
      | nil => exact visible (List.cons.inj same).1
      | cons d rest =>
        rw [List.cons_append] at same
        exact alone rest (by rw [(List.cons.inj same).1])
    rw [List.cons_append, unifyLineEnds.eq_3 _ stillAlone, ih, List.cons_append]
  | case4 d rest _ plain ih => rw [List.cons_append, unifyLineEnds_cons plain, ih, List.cons_append]

theorem unifyLineEnds_of_plain (plain : '\r' ∉ text) : unifyLineEnds text = text := by
  simpa [unifyLineEnds] using unifyLineEnds_append plain []

/-- No line end begins in a text that ends with some other character and ends behind it. -/
theorem unifyLineEnds_concat_append (visible : c ≠ '\n') (plain : c ≠ '\r') (front text : List Char) :
    unifyLineEnds (front ++ [c] ++ text) = unifyLineEnds (front ++ [c]) ++ unifyLineEnds text := by
  rw [List.append_assoc, List.singleton_append, unifyLineEnds_append_cons visible, unifyLineEnds_append_cons visible,
    unifyLineEnds_cons plain, unifyLineEnds_cons plain, List.append_assoc]
  rfl

theorem unifyLineEnds_return (text : List Char) : ∃ rest, unifyLineEnds ('\r' :: text) = '\n' :: rest := by
  by_cases together : ∃ rest, text = '\n' :: rest
  · obtain ⟨rest, rfl⟩ := together
    exact ⟨_, unifyLineEnds.eq_2 rest⟩
  · exact ⟨_, unifyLineEnds.eq_3 text fun rest same => together ⟨rest, same⟩⟩

/-- A quote in front was there before. -/
theorem eq_of_unifyLineEnds_eq {more : List Char} (same : unifyLineEnds text = '"' :: more) :
    ∃ rest, text = '"' :: rest ∧ unifyLineEnds rest = more := by
  cases text with
  | nil => cases same
  | cons c rest =>
    by_cases returns : c = '\r'
    · obtain ⟨others, ended⟩ := unifyLineEnds_return rest
      rw [returns, ended] at same
      cases (List.cons.inj same).1
    · rw [unifyLineEnds_cons returns] at same
      obtain ⟨rfl, rfl⟩ := List.cons.inj same
      exact ⟨rest, rfl, rfl⟩

private theorem getLast?_unifyLineEnds (text : List Char) :
    (unifyLineEnds text).getLast? = text.getLast?.map fun c => if c = '\r' then '\n' else c := by
  fun_induction unifyLineEnds text with
  | case1 => rfl
  | case2 rest ih =>
    simp only [List.getLast?_cons, ih]
    cases rest.getLast? <;> rfl
  | case3 rest _ ih =>
    simp only [List.getLast?_cons, ih]
    cases rest.getLast? <;> rfl
  | case4 c rest _ plain ih =>
    simp only [List.getLast?_cons, ih]
    cases rest.getLast? with
    | none => simp [if_neg plain]
    | some last => rfl

/-- Texts end with a quote before and after. -/
theorem endsWithQuote_unifyLineEnds (text : List Char) :
    (unifyLineEnds text).getLast? = some '"' ↔ text.getLast? = some '"' := by
  rw [getLast?_unifyLineEnds]
  cases text.getLast? with
  | none => simp
  | some last =>
    by_cases returns : last = '\r'
    · simp [returns]
    · simp [returns]

end Text

namespace Target.Docstring

open Text

variable {c : Char} {text : List Char}

/-- Whatever is no backslash and begins no three quotes is written as it is. -/
theorem escapeQuotes_other (single : c = '"' → ∀ rest, text ≠ '"' :: '"' :: rest) (notSlash : c ≠ '\\') :
    escapeQuotes (c :: text) = c :: escapeQuotes text :=
  escapeQuotes.eq_4 c text (fun rest quote same => single quote rest same) notSlash

theorem escapeQuotes_cons (notQuote : c ≠ '"') (notSlash : c ≠ '\\') (text : List Char) :
    escapeQuotes (c :: text) = c :: escapeQuotes text :=
  escapeQuotes_other (fun quote => absurd quote notQuote) notSlash

theorem escapeQuotes_quote (single : ∀ rest, text ≠ '"' :: '"' :: rest) :
    escapeQuotes ('"' :: text) = '"' :: escapeQuotes text :=
  escapeQuotes_other (fun _ => single) (by decide)

/-- What is written begins as the text does, or with a backslash. -/
theorem escapeQuotes_begins (c : Char) (text : List Char) :
    ∃ first more, escapeQuotes (c :: text) = first :: more ∧ (first = c ∨ first = '\\') := by
  by_cases slash : c = '\\'
  · exact ⟨'\\', _, by rw [slash, escapeQuotes], .inr rfl⟩
  · by_cases three : c = '"' ∧ ∃ rest, text = '"' :: '"' :: rest
    · obtain ⟨rfl, rest, rfl⟩ := three
      exact ⟨'\\', _, by rw [escapeQuotes], .inr rfl⟩
    · exact ⟨c, _, escapeQuotes_other (fun quote rest same => three ⟨quote, rest, same⟩) slash, .inl rfl⟩

/-- Line ends are written as they are. -/
theorem unifyLineEnds_escapeQuotes (text : List Char) :
    unifyLineEnds (escapeQuotes text) = escapeQuotes (unifyLineEnds text) := by
  fun_induction escapeQuotes text with
  | case1 => rfl
  | case2 rest ih => simp [unifyLineEnds_cons, ih, escapeQuotes]
  | case3 rest ih => simp [unifyLineEnds_cons, ih, escapeQuotes]
  | case4 c rest single notSlash ih =>
    by_cases returns : c = '\r'
    · subst returns
      by_cases together : ∃ more, rest = '\n' :: more
      · obtain ⟨more, rfl⟩ := together
        rw [escapeQuotes_cons (by decide) (by decide), unifyLineEnds_cons (by decide),
          unifyLineEnds_cons (by decide)] at ih
        rw [escapeQuotes_cons (by decide) (by decide), unifyLineEnds, unifyLineEnds, ih]
      · have alone : ∀ more, rest ≠ '\n' :: more := fun more same => together ⟨more, same⟩
        have stillAlone : ∀ more, escapeQuotes rest ≠ '\n' :: more := by
          intro more same
          cases rest with
          | nil => cases same
          | cons d others =>
            obtain ⟨first, behind, written, rfl | rfl⟩ := escapeQuotes_begins d others
            · exact alone others (by rw [(List.cons.inj (written.symm.trans same)).1])
            · cases (List.cons.inj (written.symm.trans same)).1
        rw [unifyLineEnds.eq_3 _ stillAlone, unifyLineEnds.eq_3 _ alone, ih,
          escapeQuotes_cons (by decide) (by decide)]
    · rw [unifyLineEnds_cons returns, unifyLineEnds_cons returns, ih]
      by_cases quote : c = '"'
      · subst quote
        refine (escapeQuotes_quote fun more same => ?_).symm
        obtain ⟨others, rfl, behind⟩ := eq_of_unifyLineEnds_eq same
        obtain ⟨others, rfl, _⟩ := eq_of_unifyLineEnds_eq behind
        exact single others rfl rfl
      · exact (escapeQuotes_cons quote notSlash _).symm

theorem unifyLineEnds_escape (text : List Char) : unifyLineEnds (escape text) = escape (unifyLineEnds text) := by
  unfold escape
  by_cases ends : text.getLast? = some '"'
  · rw [if_pos ends, if_pos ((endsWithQuote_unifyLineEnds text).mpr ends), unifyLineEnds_append_cons (by decide),
      unifyLineEnds_escapeQuotes]
    rfl
  · rw [if_neg ends, if_neg fun last => ends ((endsWithQuote_unifyLineEnds text).mp last), unifyLineEnds_escapeQuotes]

/-- A quote in front of what is written is one in front of the text, or of what stands behind an empty one. -/
private theorem begins_of_written {suffix more : List Char} (same : escapeQuotes text ++ suffix = '"' :: more) :
    (text = [] ∧ suffix = '"' :: more) ∨ ∃ rest, text = '"' :: rest := by
  cases text with
  | nil => exact .inl ⟨rfl, same⟩
  | cons c rest =>
    obtain ⟨first, behind, written, rfl | rfl⟩ := escapeQuotes_begins c rest
    · rw [written] at same
      exact .inr ⟨rest, by rw [(List.cons.inj same).1]⟩
    · rw [written] at same
      cases (List.cons.inj same).1

/-- Behind a quote that is written as it is, no two others are. -/
private theorem not_closing {rest suffix : List Char} (single : ∀ more, rest ≠ '"' :: '"' :: more)
    (closed : ('"' :: rest).getLast? = some '"' → suffix.head? ≠ some '"') (more : List Char) :
    escapeQuotes rest ++ suffix ≠ '"' :: '"' :: more := by
  intro same
  obtain ⟨rfl, begins⟩ | ⟨others, rfl⟩ := begins_of_written same
  · exact closed rfl (by rw [begins, List.head?_cons])
  · have alone : ∀ rest, others ≠ '"' :: rest := fun rest repeated => single rest (by rw [repeated])
    rw [escapeQuotes_quote fun rest repeated => alone _ repeated] at same
    obtain ⟨rfl, begins⟩ | ⟨rest, repeated⟩ := begins_of_written (List.cons.inj same).2
    · exact closed rfl (by rw [begins, List.head?_cons])
    · exact alone rest repeated

private theorem endsWithQuote_append {front : List Char} (ends : text.getLast? = some '"') :
    (front ++ text).getLast? = some '"' := by
  rw [List.getLast?_append, ends, Option.some_or]

/-- Nothing that is written of a text closes the literal. -/
theorem body_escapeQuotes {suffix : List Char} (more : suffix ≠ [])
    (closed : text.getLast? = some '"' → suffix.head? ≠ some '"') :
    Literal.body '"' true (escapeQuotes text ++ suffix) = (Literal.body '"' true suffix).map
      fun (content, width) => (escapeQuotes text ++ content, (escapeQuotes text).length + width) := by
  fun_induction escapeQuotes text with
  | case1 => simp
  | case2 rest ih =>
    have read := ih fun ends => closed (endsWithQuote_append ends : (['"', '"', '"'] ++ rest).getLast? = _)
    simp only [List.cons_append, Literal.body, read]
    cases Literal.body '"' true suffix with
    | none => rfl
    | some found => simp; omega
  | case3 rest ih =>
    have read := ih fun ends => closed (endsWithQuote_append ends : (['\\'] ++ rest).getLast? = _)
    simp only [List.cons_append, Literal.body, read]
    cases Literal.body '"' true suffix with
    | none => rfl
    | some found => simp; omega
  | case4 c rest single visible ih =>
    have read := ih fun ends => closed (endsWithQuote_append ends : ([c] ++ rest).getLast? = _)
    obtain ⟨d, others, behind⟩ : ∃ d others, escapeQuotes rest ++ suffix = d :: others :=
      List.exists_cons_of_ne_nil fun none => more (List.append_eq_nil_iff.mp none).2
    have goesOn : ¬ (c = '"' ∧ true = true ∧ d = '"' ∧ others.head? = some '"') := by
      rintro ⟨rfl, _, rfl, next⟩
      obtain ⟨others, rfl⟩ := List.head?_eq_some_iff.mp next
      exact not_closing (fun rest same => single rest rfl same) closed others behind
    rw [behind] at read
    rw [List.cons_append, behind, Literal.body.eq_4 _ _ _ _ _ visible, if_neg (by simp), if_neg goesOn,
      if_neg (by simp), read]
    cases Literal.body '"' true suffix with
    | none => rfl
    | some found => simp; omega

/-- What is written of a text is read as the text. -/
theorem unescape_escapeQuotes (text suffix : List Char) :
    Literal.unescape false (escapeQuotes text ++ suffix) = (Literal.unescape false suffix).map (text ++ ·) := by
  fun_induction escapeQuotes text with
  | case1 => simp
  | case2 rest ih =>
    simp only [List.cons_append, Literal.unescape, Literal.escape, List.drop_succ_cons, List.drop_zero, ih]
    cases Literal.unescape false suffix <;> rfl
  | case3 rest ih =>
    simp only [List.cons_append, Literal.unescape, Literal.escape, List.drop_succ_cons, List.drop_zero, ih]
    cases Literal.unescape false suffix <;> rfl
  | case4 c rest single visible ih =>
    rw [List.cons_append, Literal.unescape.eq_3 _ _ _ visible, ih]
    cases Literal.unescape false suffix <;> rfl

/-- The text with a blank behind a final quote. -/
def padded (text : List Char) : List Char := if text.getLast? = some '"' then text ++ [' '] else text

/-- A documentation as it reads: with line feeds as line ends, and a blank behind a final quote. -/
def asRead (text : String) : String := String.ofList (padded (unifyLineEnds text.toList))

/-- Between triple quotes a text is written so that the first three quotes that are met are the closing ones. -/
theorem body_escape (text rest : List Char) :
    Literal.body '"' true (escape text ++ '"' :: '"' :: '"' :: rest)
      = some (escape text, (escape text).length + 3) := by
  unfold escape
  by_cases ends : text.getLast? = some '"'
  · rw [if_pos ends, List.append_assoc, body_escapeQuotes (by simp) fun _ => by simp]
    simp [Literal.body]
  · rw [if_neg ends, body_escapeQuotes (by simp) fun last => absurd last ends]
    simp [Literal.body]

/-- The value of what is written is the text. -/
theorem unescape_escape (text : List Char) : Literal.unescape false (escape text) = some (padded text) := by
  unfold escape padded
  by_cases ends : text.getLast? = some '"'
  · rw [if_pos ends, if_pos ends, unescape_escapeQuotes]
    simp [Literal.unescape]
  · have value := unescape_escapeQuotes text []
    rw [if_neg ends, if_neg ends]
    simpa [Literal.unescape] using value

/-- A text without quotes and backslashes is written as it is. -/
theorem escape_of_plain (plain : ∀ c ∈ text, c ≠ '"' ∧ c ≠ '\\') : escape text = text := by
  have same : escapeQuotes text = text := by
    induction text with
    | nil => rfl
    | cons c rest ih =>
      obtain ⟨notQuote, notSlash⟩ := plain c List.mem_cons_self
      rw [escapeQuotes_cons notQuote notSlash, ih fun d later => plain d (List.mem_cons_of_mem _ later)]
  rw [escape, if_neg fun ends => (plain '"' (List.mem_of_getLast? ends)).1 rfl, same]

theorem mem_of_mem_escapeQuotes (member : c ∈ escapeQuotes text) : c ∈ text ∨ c = '\\' := by
  fun_induction escapeQuotes text with
  | case1 => cases member
  | case2 rest ih => grind
  | case3 rest ih => grind
  | case4 d rest _ _ ih => grind

/-- A text is written in its own characters, backslashes and blanks. -/
theorem mem_of_mem_escape (member : c ∈ escape text) : c ∈ text ∨ c = '\\' ∨ c = ' ' := by
  unfold escape at member
  split_ifs at member
  · rcases List.mem_append.mp member with written | blank
    · exact (mem_of_mem_escapeQuotes written).imp_right .inl
    · exact .inr (.inr (List.mem_singleton.mp blank))
  · exact (mem_of_mem_escapeQuotes member).imp_right .inl

/-- The literal that documents something ends with its own quotes, whatever stands behind them, and reads as the
text. -/
theorem read_escape (text rest : List Char) :
    Literal.read {} ('"' :: '"' :: '"' :: (escape text ++ '"' :: '"' :: '"' :: rest))
      = some (padded text, (escape text).length + 6) := by
  have content : Literal.content? ('"' :: '"' :: '"' :: (escape text ++ '"' :: '"' :: '"' :: rest))
      = some (escape text, (escape text).length + 6) := by
    simp [Literal.content?, body_escape]
    omega
  simp [Literal.read, content, Literal.value?, unescape_escape]

end Target.Docstring

end SelectionGen
