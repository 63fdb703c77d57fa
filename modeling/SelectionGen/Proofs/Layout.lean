import Mathlib.Data.List.Chain
import SelectionGen.Proofs.Docstrings
import SelectionGen.Target.Lexer

/-! Code laid out in lines. A line is put together from parts: words, signs, blanks, names in quotes and
documentation. Each part is cut out again as its own token wherever it stands, provided it ends before what is put
behind it. From that, lines are read as the tokens of their parts and rows of lines as the tokens of their lines, with
blocks opened and closed by how far the lines stand in. -/
namespace SelectionGen.Target

/-- A place that scanning has reached: the text behind it, how many brackets and which levels of indentation are open,
and whether a line begins there. -/
structure Spot where
  text : List Char
  depth : Nat
  levels : List Indentation
  atStart : Bool

/-- The tokens from a place on, on whichever line it is. -/
def Spot.scan (embed : Formatted.Embed) (line : Nat) (spot : Spot) : Option (List Token) :=
  Token.scan embed spot.text line spot.depth spot.levels spot.atStart

/-- From one place scanning goes on to another one, and on the way it cuts tokens of these kinds. -/
def Leads (here : Spot) (kinds : List TokenKind) (there : Spot) : Prop :=
  ∀ (embed : Formatted.Embed) (line : Nat), ∃ tokens behind, tokens.map Token.kind = kinds ∧
    here.scan embed line = (there.scan embed behind).map (tokens ++ ·)

/-- From a place on, wherever it is, a text is cut into tokens of these kinds. -/
def Scans (here : Spot) (kinds : List TokenKind) : Prop :=
  ∀ (embed : Formatted.Embed) (line : Nat), ∃ tokens, here.scan embed line = some tokens ∧
    tokens.map Token.kind = kinds

/-- A character that begins a token, as far as lines are concerned. -/
structure IsVisible (c : Char) : Prop where
  notLineEnd : c ≠ '\n'
  notBlank : Indentation.isBlank c = false
  notComment : c ≠ '#'
  notSlash : c ≠ '\\'

theorem Scans.finished (depth : Nat) (levels : List Indentation) :
    Scans ⟨[], depth, levels, true⟩ (levels.map fun _ => .dedent) := by
  intro embed line
  refine ⟨levels.map fun _ => ⟨.dedent, line⟩, ?_, by simp⟩
  rw [Spot.scan, Token.scan.eq_def, if_pos rfl]
  split <;> rename_i found <;> cases found
  · rfl
  · rename_i notEmpty _ _
    exact absurd rfl notEmpty

namespace Leads

variable {here there beyond : Spot} {kinds more : List TokenKind}

theorem refl (here : Spot) : Leads here [] here := fun embed line =>
  ⟨[], line, rfl, by simp⟩

theorem trans (first : Leads here kinds there) (second : Leads there more beyond) :
    Leads here (kinds ++ more) beyond := by
  intro embed line
  obtain ⟨tokens, behind, same, scanned⟩ := first embed line
  obtain ⟨others, further, alsoSame, scannedBehind⟩ := second embed behind
  refine ⟨tokens ++ others, further, by rw [List.map_append, same, alsoSame], ?_⟩
  rw [scanned, scannedBehind, Option.map_map]
  simp [Function.comp_def]

/-- What leads to a place where the rest of a text is cut up is cut up as well. -/
theorem scans (leads : Leads here kinds there) (behind : Scans there more) : Scans here (kinds ++ more) := by
  intro embed line
  obtain ⟨tokens, further, same, scanned⟩ := leads embed line
  obtain ⟨others, scannedBehind, alsoSame⟩ := behind embed further
  exact ⟨tokens ++ others, by rw [scanned, scannedBehind, Option.map_some], by rw [List.map_append, same, alsoSame]⟩

/-- Whatever a text is cut into, it begins with what is cut on the way. -/
theorem isPrefix (leads : Leads here kinds there) {embed : Formatted.Embed} {line : Nat} {tokens : List Token}
    (scanned : here.scan embed line = some tokens) : kinds <+: tokens.map Token.kind := by
  obtain ⟨cut, behind, same, parts⟩ := leads embed line
  rw [scanned] at parts
  obtain ⟨others, _, rfl⟩ := Option.map_eq_some_iff.mp parts.symm
  rw [List.map_append, same]
  exact List.prefix_append _ _

end Leads

namespace Leads

variable {c : Char} {text rest : List Char} {depth depth' : Nat} {levels levels' : List Indentation}

theorem blank : Leads ⟨' ' :: text, depth, levels, false⟩ [] ⟨text, depth, levels, false⟩ := by
  intro embed line
  refine ⟨[], line, rfl, ?_⟩
  rw [Spot.scan, Token.scan.eq_3 _ _ _ _ _ ' ' _ fun _ slash _ => absurd slash (by decide)]
  simp [Indentation.isBlank, Spot.scan]

theorem lineEnd : Leads ⟨'\n' :: text, 0, levels, false⟩ [.lineEnd] ⟨text, 0, levels, true⟩ := by
  intro embed line
  refine ⟨[⟨.lineEnd, line⟩], line + 1, rfl, ?_⟩
  rw [Spot.scan, Token.scan.eq_3 _ _ _ _ _ '\n' _ fun _ slash _ => absurd slash (by decide)]
  cases found : Token.scan embed text (line + 1) 0 levels true <;> simp [Spot.scan, found]

/-- Between brackets a line goes on. -/
theorem lineBreak (inside : 0 < depth) :
    Leads ⟨'\n' :: text, depth, levels, false⟩ [] ⟨text, depth, levels, false⟩ := by
  intro embed line
  refine ⟨[], line + 1, rfl, ?_⟩
  rw [Spot.scan, Token.scan.eq_3 _ _ _ _ _ '\n' _ fun _ slash _ => absurd slash (by decide)]
  simp [Nat.ne_of_gt inside, Spot.scan]

/-- A token in front, by what is read where it starts. -/
theorem token {kind : TokenKind} {width : Nat} (visible : IsVisible c)
    (read : ∀ embed line, Token.read embed line (c :: rest) = some ([⟨kind, line⟩], width))
    (turns : ∀ line, Token.depthBehind? depth [⟨kind, line⟩] = some depth') :
    Leads ⟨c :: rest, depth, levels, false⟩ [kind] ⟨rest.drop (width - 1), depth', levels, false⟩ := by
  intro embed line
  refine ⟨[⟨kind, line⟩], line + ((c :: rest).take width).count '\n', rfl, ?_⟩
  rw [Spot.scan, Token.scan.eq_3 _ _ _ _ _ _ _ fun _ slash _ => visible.notSlash slash]
  simp only [visible.notLineEnd, visible.notBlank, visible.notComment, read, turns, if_false, Bool.false_eq_true,
    Option.bind_eq_bind, Option.bind_some, Spot.scan]
  cases Token.scan embed (rest.drop (width - 1)) _ depth' levels false <;> rfl

/-- Blanks in front of a character that does not go on with a line. -/
theorem read_blanks (stops : Indentation.isBlank c = false) (notSlash : c ≠ '\\') {blanks : List Char}
    (areBlank : ∀ d ∈ blanks, Indentation.isBlank d = true) (rest : List Char) (here : Indentation) :
    ∃ found, Indentation.read (blanks ++ c :: rest) here 0 0 = some (found, c :: rest, 0) := by
  induction blanks generalizing here with
  | nil =>
    rw [List.nil_append, Indentation.read.eq_2 _ _ _ _ _ fun _ slash _ => notSlash slash]
    simp [stops]
  | cons d blanks ih =>
    have blankHere := areBlank d List.mem_cons_self
    have notSlashHere : d ≠ '\\' := by
      rintro rfl
      exact absurd blankHere (by decide)
    obtain ⟨found, read⟩ := ih (fun e later => areBlank e (List.mem_cons_of_mem _ later)) (here.behind d)
    rw [List.cons_append, Indentation.read.eq_2 _ _ _ _ _ fun _ slash _ => notSlashHere slash]
    exact ⟨found, by simp [blankHere, read]⟩

/-- A line with nothing on it but blanks. -/
theorem blankLine {blanks : List Char} (areBlank : ∀ d ∈ blanks, Indentation.isBlank d = true) :
    Leads ⟨blanks ++ '\n' :: text, depth, levels, true⟩ [] ⟨text, depth, levels, true⟩ := by
  intro embed line
  have stops : Indentation.isBlank '\n' = false := by decide
  obtain ⟨indentation, read⟩ := read_blanks stops (by decide) areBlank text ⟨0, 0⟩
  refine ⟨[], line + 1, rfl, ?_⟩
  rw [Spot.scan, Token.scan.eq_def, if_pos rfl]
  split <;> rename_i found <;> cases found.symm.trans read
  · simp [Spot.scan]
  · rename_i notLineEnd _
    exact absurd rfl (notLineEnd _)

/-- A line with nothing on it but a comment. -/
theorem commentLine {blanks comment : List Char} (areBlank : ∀ d ∈ blanks, Indentation.isBlank d = true)
    (onLine : '\n' ∉ comment) :
    Leads ⟨blanks ++ '#' :: (comment ++ '\n' :: text), depth, levels, true⟩ [] ⟨text, depth, levels, true⟩ := by
  have toEnd : Leads ⟨blanks ++ '#' :: (comment ++ '\n' :: text), depth, levels, true⟩ []
      ⟨'\n' :: text, depth, levels, true⟩ := by
    intro embed line
    have stops : Indentation.isBlank '#' = false := by decide
    obtain ⟨indentation, read⟩ := read_blanks stops (by decide) areBlank (comment ++ '\n' :: text) ⟨0, 0⟩
    have goesOn : ∀ d ∈ comment, (d != '\n') = true := by
      rintro d member
      exact bne_iff_ne.mpr (ne_of_mem_of_not_mem member onLine)
    have skipped : (comment ++ '\n' :: text).dropWhile (fun d => d != '\n') = '\n' :: text := by
      rw [List.dropWhile_append_of_pos goesOn]
      simp
    refine ⟨[], line, rfl, ?_⟩
    rw [Spot.scan, Token.scan.eq_def, if_pos rfl]
    split <;> rename_i found <;> cases found.symm.trans read
    · simp [skipped, Spot.scan]
    · rename_i notComment
      exact absurd rfl (notComment _)
  have ended : Leads ⟨[] ++ '\n' :: text, depth, levels, true⟩ [] ⟨text, depth, levels, true⟩ :=
    blankLine fun d member => absurd member List.not_mem_nil
  exact toEnd.trans ended

theorem read_replicate (visible : IsVisible c) (rest : List Char) (width : Nat) (here : Indentation) :
    Indentation.read (List.replicate width ' ' ++ c :: rest) here 0 0
      = some (⟨here.width + width, here.plainWidth + width⟩, c :: rest, 0) := by
  induction width generalizing here with
  | zero =>
    rw [List.replicate_zero, List.nil_append, Indentation.read.eq_2 _ _ _ _ _ fun _ slash _ => visible.notSlash slash]
    simp [visible.notBlank]
  | succ width ih =>
    rw [List.replicate_succ, List.cons_append,
      Indentation.read.eq_2 _ _ _ ' ' _ fun _ slash _ => absurd slash (by decide)]
    simp [Indentation.isBlank, ih, Indentation.behind]
    omega

theorem lineStart {opening : List TokenKind} {width : Nat} (visible : IsVisible c)
    (arranged : Indentation.arrange ⟨width, width⟩ levels = some (opening, levels')) :
    Leads ⟨List.replicate width ' ' ++ c :: rest, depth, levels, true⟩ opening ⟨c :: rest, depth, levels', false⟩ := by
  intro embed line
  have read := read_replicate visible rest width ⟨0, 0⟩
  simp only [Nat.zero_add] at read
  refine ⟨opening.map (⟨·, line⟩), line, by simp [Function.comp_def], ?_⟩
  rw [Spot.scan, Token.scan.eq_def, if_pos rfl]
  split <;> rename_i found <;> cases found.symm.trans read
  · exact absurd rfl visible.notLineEnd
  · exact absurd rfl visible.notComment
  · simp only [arranged, Spot.scan, Nat.add_zero, Option.bind_eq_bind]
    cases Token.scan embed (c :: rest) line depth levels' false <;> rfl

end Leads

section Names

variable {c : Char} {text : List Char}

theorem bounds_of_isDigit (digit : c.isDigit = true) : 48 ≤ c.toNat ∧ c.toNat ≤ 57 := by
  have range : (decide ('0'.val ≤ c.val) && decide (c.val ≤ '9'.val)) = true := digit
  rw [Bool.and_eq_true, decide_eq_true_eq, decide_eq_true_eq, UInt32.le_iff_toNat_le, UInt32.le_iff_toNat_le] at range
  exact range

/-- Names are spelled in a part of the basic alphabet. -/
theorem bounds_of_isNameContinue (continues : Sdl.isNameContinue c = true) : 48 ≤ c.toNat ∧ c.toNat ≤ 122 := by
  rw [Sdl.isNameContinue, Bool.or_eq_true] at continues
  rcases continues with start | digit
  · rcases Sdl.cases_of_isNameStart start with upper | lower | rfl
    · omega
    · omega
    · decide
  · have bounds := bounds_of_isDigit digit
    omega

theorem not_isDigit_of_isNameStart (start : Sdl.isNameStart c = true) : c.isDigit = false := by
  refine Bool.eq_false_iff.mpr fun digit => ?_
  have bounds := bounds_of_isDigit digit
  rcases Sdl.cases_of_isNameStart start with upper | lower | rfl
  · omega
  · omega
  · exact absurd bounds (by decide)

theorem isIdentifierContinue_of_name (continues : Sdl.isNameContinue c = true) :
    Text.isIdentifierContinue c = true := by
  have bounds := bounds_of_isNameContinue continues
  rw [Text.isIdentifierContinue, if_pos (by omega)]
  exact continues

theorem isIdentifierStart_of_name (start : Sdl.isNameStart c = true) : Text.isIdentifierStart c = true := by
  have continues : Sdl.isNameContinue c = true := by rw [Sdl.isNameContinue, start, Bool.true_or]
  have bounds := bounds_of_isNameContinue continues
  rw [Text.isIdentifierStart, if_pos (by omega)]
  exact start

theorem IsVisible.of_name (start : Sdl.isNameStart c = true) : IsVisible c where
  notLineEnd := by rintro rfl; exact absurd start (by decide)
  notBlank := by
    simp only [Indentation.isBlank, Bool.or_eq_false_iff, beq_eq_false_iff_ne]
    refine ⟨⟨?_, ?_⟩, ?_⟩ <;> rintro rfl <;> exact absurd start (by decide)
  notComment := by rintro rfl; exact absurd start (by decide)
  notSlash := by rintro rfl; exact absurd start (by decide)

theorem exists_of_isName (named : Sdl.isName text = true) :
    ∃ c rest, text = c :: rest ∧ Sdl.isNameStart c = true ∧ ∀ d ∈ rest, Sdl.isNameContinue d = true := by
  cases text with
  | nil => cases named
  | cons c rest =>
    rw [Sdl.isName, Bool.and_eq_true] at named
    exact ⟨c, rest, rfl, named.1, List.all_eq_true.mp named.2⟩

@[simp] theorem isName_cons (c : Char) (rest : List Char) :
    Sdl.isName (c :: rest) = (Sdl.isNameStart c && rest.all Sdl.isNameContinue) := rfl

theorem continues_of_isName (named : Sdl.isName text = true) : ∀ c ∈ text, Sdl.isNameContinue c = true := by
  obtain ⟨first, rest, rfl, start, continues⟩ := exists_of_isName named
  rintro c (_ | ⟨_, later⟩)
  · rw [Sdl.isNameContinue, start, Bool.true_or]
  · exact continues c later

/-- Names hold neither line ends nor anything that literals give a meaning to. -/
theorem plain_of_isName (named : Sdl.isName text = true) :
    ∀ c ∈ text, c ≠ '\r' ∧ c ≠ '\n' ∧ c ≠ '\\' ∧ c ≠ '"' ∧ c ≠ '\'' := by
  intro c member
  have continues := continues_of_isName named c member
  refine ⟨?_, ?_, ?_, ?_, ?_⟩ <;> rintro rfl <;> exact absurd continues (by decide)

theorem null_not_mem_of_isName (named : Sdl.isName text = true) : '\x00' ∉ text :=
  fun member => absurd (continues_of_isName named _ member) (by decide)

theorem return_not_mem_of_isName (named : Sdl.isName text = true) : '\r' ∉ text :=
  fun member => (plain_of_isName named _ member).1 rfl

end Names

section Literals

variable {quote : Char} {text : List Char}

/-- Nothing in a plain text closes a literal. -/
theorem Literal.body_of_plain (notSlash : quote ≠ '\\') (plain : ∀ c ∈ text, c ≠ '\n' ∧ c ≠ '\\' ∧ c ≠ quote)
    (rest : List Char) : Literal.body quote false (text ++ quote :: rest) = some (text, text.length + 1) := by
  induction text with
  | nil =>
    cases rest with
    | nil => simp [Literal.body]
    | cons d rest => simp [Literal.body.eq_4 _ _ _ _ _ notSlash]
  | cons c text ih =>
    obtain ⟨notLineEnd, plainHere, notQuote⟩ := plain c List.mem_cons_self
    have read := ih fun d later => plain d (List.mem_cons_of_mem _ later)
    obtain ⟨d, more, behind⟩ : ∃ d more, text ++ quote :: rest = d :: more :=
      List.exists_cons_of_ne_nil (by simp)
    rw [behind] at read
    rw [List.cons_append, behind, Literal.body.eq_4 _ _ _ _ _ plainHere]
    simp [notLineEnd, notQuote, read]

theorem Literal.unescape_of_plain (plain : ∀ c ∈ text, c ≠ '\\') : Literal.unescape false text = some text := by
  induction text with
  | nil => rw [Literal.unescape]
  | cons c text ih =>
    have later := ih fun d member => plain d (List.mem_cons_of_mem _ member)
    rw [Literal.unescape.eq_3 _ _ _ (plain c List.mem_cons_self), later]
    rfl

/-- A name in quotes is a literal of that name. -/
theorem Literal.read_name (isQuote : quote = '"' ∨ quote = '\'') (named : Sdl.isName text = true) (rest : List Char) :
    Literal.read {} (quote :: (text ++ [quote] ++ rest)) = some (text, (text ++ [quote]).length + 1) := by
  have plain := plain_of_isName named
  have notSlash : quote ≠ '\\' := by obtain rfl | rfl := isQuote <;> decide
  have notQuote : ∀ c ∈ text, c ≠ quote := by
    intro c member
    obtain rfl | rfl := isQuote
    · exact (plain c member).2.2.2.1
    · exact (plain c member).2.2.2.2
  have body := Literal.body_of_plain notSlash
    (fun c member => ⟨(plain c member).2.1, (plain c member).2.2.1, notQuote c member⟩) rest
  have value := Literal.unescape_of_plain fun c member => (plain c member).2.2.1
  obtain ⟨first, more, rfl, _⟩ := exists_of_isName named
  have differs : first ≠ quote := notQuote first List.mem_cons_self
  have content : Literal.content? (quote :: (first :: more ++ [quote] ++ rest))
      = some (first :: more, (first :: more ++ [quote]).length + 1) := by
    have isMark : ¬ (quote ≠ '"' ∧ quote ≠ '\'') := by obtain rfl | rfl := isQuote <;> decide
    have single : ((first :: (more ++ quote :: rest)).take 2 == [quote, quote]) = false := by simp [differs]
    rw [List.append_assoc, List.singleton_append, List.cons_append, Literal.content?, if_neg isMark, single]
    rw [List.cons_append] at body
    simp only [Bool.false_eq_true, if_false, Nat.sub_self, List.drop_zero, body, Option.map_some, List.length_append,
      List.length_singleton]
    rw [Nat.add_comm]
  simp only [Literal.read, content, Option.bind_eq_bind, Option.bind_some, Literal.value?, Bool.false_and,
    Bool.false_eq_true, if_false, value]
  rfl

end Literals

/-- No name goes on here, and no literal that a name would belong to begins here. -/
def EndsWord (text : List Char) : Prop :=
  ∀ c, text.head? = some c → Text.isIdentifierContinue c = false ∧ c ≠ '"' ∧ c ≠ '\''

/-- No sign goes on here, and no number begins here. -/
def EndsSign (text : List Char) : Prop :=
  ∀ c, text.head? = some c → c ≠ '=' ∧ c ≠ '.' ∧ c.isDigit = false

/-- The signs that generated code is written with. -/
inductive Sign
  | parenOpen
  | parenClose
  | bracketOpen
  | bracketClose
  | comma
  | arrow
  | colon
  | dot
  | equals
  | atSign
deriving DecidableEq

namespace Sign

def text : Sign → String
  | parenOpen => "("
  | parenClose => ")"
  | bracketOpen => "["
  | bracketClose => "]"
  | comma => ","
  | arrow => "->"
  | colon => ":"
  | dot => "."
  | equals => "="
  | atSign => "@"

/-- Whether no longer sign begins with this one. -/
@[simp] def isWhole : Sign → Bool
  | colon | dot | equals | atSign => false
  | _ => true

/-- How many brackets are open behind a sign. -/
@[simp] def behind (depth : Nat) : Sign → Nat
  | parenOpen | bracketOpen => depth + 1
  | parenClose | bracketClose => depth - 1
  | _ => depth

theorem begins (sign : Sign) :
    ∃ c rest, sign.text.toList = c :: rest ∧ IsVisible c ∧ sign.text.length = rest.length + 1 := by
  cases sign <;> refine ⟨_, _, rfl, ⟨?_, ?_, ?_, ?_⟩, rfl⟩ <;> decide

theorem read (sign : Sign) {rest : List Char} (ends : sign.isWhole = true ∨ EndsSign rest) (embed : Formatted.Embed)
    (line : Nat) :
    Token.read embed line (sign.text.toList ++ rest) = some ([⟨.mark sign.text, line⟩], sign.text.length) := by
  have found : Token.marks.find? (fun mark => mark.toList.isPrefixOf (sign.text.toList ++ rest)) = some sign.text := by
    cases rest with
    | nil => cases sign <;> decide
    | cons c rest =>
      obtain whole | ends := ends
      · cases sign <;> simp only [isWhole, Bool.false_eq_true] at whole <;> simp [Token.marks, text]
      · obtain ⟨notEquals, notDot, _⟩ := ends c rfl
        cases sign <;> simp [Token.marks, text, Ne.symm notEquals, Ne.symm notDot]
  obtain ⟨c, tail, shape, notName, notQuote, notDigit, notPoint⟩ : ∃ c tail, sign.text.toList = c :: tail ∧
      Text.isIdentifierStart c = false ∧ (c == '"' || c == '\'') = false ∧ c.isDigit = false ∧
      (c = '.' → tail = [] ∧ sign.isWhole = false) := by
    cases sign <;> refine ⟨_, _, rfl, ?_⟩ <;> decide
  have notNumber : (c.isDigit || (c == '.' && (((tail ++ rest).head?.map Char.isDigit).getD false))) = false := by
    rw [notDigit, Bool.false_or, Bool.and_eq_false_iff, beq_eq_false_iff_ne]
    by_cases point : c = '.'
    · obtain ⟨rfl, notWhole⟩ := notPoint point
      right
      cases next : rest.head? with
      | none => simp [next]
      | some d => simpa [next] using ((ends.resolve_left (by rw [notWhole]; decide)) d next).2.2
    · exact .inl point
  rw [shape, List.cons_append] at found ⊢
  simp only [Token.read, notName, notQuote, notNumber, found, Bool.false_eq_true, if_false, Option.map_some]

theorem depthBehind (sign : Sign) {depth : Nat} (room : sign.behind depth ≤ Formatted.nestingLimit) (line : Nat) :
    Token.depthBehind? depth [⟨.mark sign.text, line⟩] = some (sign.behind depth) := by
  cases sign <;> simp [Token.depthBehind?, Token.openingMarks, Token.closingMarks, text, behind] at room ⊢ <;> omega

end Sign

namespace Leads

variable {text rest : List Char} {depth : Nat} {levels : List Indentation}

theorem word {name : String} (named : Sdl.isName name.toList = true) (ends : EndsWord rest) :
    Leads ⟨name.toList ++ rest, depth, levels, false⟩ [.name name] ⟨rest, depth, levels, false⟩ := by
  obtain ⟨c, tail, shape, start, _⟩ := exists_of_isName named
  have taken : (c :: (tail ++ rest)).takeWhile Text.isIdentifierContinue = name.toList := by
    have goesOn : ∀ d ∈ name.toList, Text.isIdentifierContinue d = true := fun d member =>
      isIdentifierContinue_of_name (continues_of_isName named d member)
    rw [← List.cons_append, ← shape, List.takeWhile_append_of_pos goesOn]
    cases rest with
    | nil => simp
    | cons d rest => rw [List.takeWhile_cons_of_neg (by rw [(ends d rfl).1]; decide), List.append_nil]
  have read : ∀ embed line, Token.read embed line (c :: (tail ++ rest))
      = some ([⟨.name name, line⟩], name.toList.length) := by
    intro embed line
    have behind : (c :: (tail ++ rest)).drop name.toList.length = rest := by
      rw [shape, ← List.cons_append, List.drop_left]
    rw [Token.read, if_pos (isIdentifierStart_of_name start), Token.readWord, taken, behind]
    split
    · exact absurd rfl (ends '"' rfl).2.1
    · exact absurd rfl (ends '\'' rfl).2.2
    · rw [String.ofList_toList]
  have found : Leads ⟨c :: (tail ++ rest), depth, levels, false⟩ [.name name]
      ⟨(tail ++ rest).drop (name.toList.length - 1), depth, levels, false⟩ :=
    token (.of_name start) read fun line => rfl
  rw [shape, List.length_cons, Nat.add_sub_cancel, List.drop_left] at found
  rwa [shape, List.cons_append]

theorem sign (sign : Sign) (ends : sign.isWhole = true ∨ EndsSign rest)
    (room : sign.behind depth ≤ Formatted.nestingLimit) :
    Leads ⟨sign.text.toList ++ rest, depth, levels, false⟩ [.mark sign.text]
      ⟨rest, sign.behind depth, levels, false⟩ := by
  obtain ⟨c, tail, shape, visible, width⟩ := sign.begins
  have read := sign.read ends
  rw [shape, List.cons_append] at read ⊢
  have found : Leads ⟨c :: (tail ++ rest), depth, levels, false⟩ [.mark sign.text]
      ⟨(tail ++ rest).drop (sign.text.length - 1), sign.behind depth, levels, false⟩ :=
    token visible read (sign.depthBehind room)
  rwa [width, Nat.add_sub_cancel, List.drop_left] at found

theorem literal {quote : Char} {value : List Char} (isQuote : quote = '"' ∨ quote = '\'')
    (read : Literal.read {} (quote :: (text ++ rest)) = some (value, text.length + 1)) :
    Leads ⟨quote :: (text ++ rest), depth, levels, false⟩ [.literal (.text (String.ofList value))]
      ⟨rest, depth, levels, false⟩ := by
  have visible : IsVisible quote := by
    obtain rfl | rfl := isQuote <;> refine ⟨?_, ?_, ?_, ?_⟩ <;> decide
  have literalRead : ∀ embed line, Token.read embed line (quote :: (text ++ rest))
      = some ([⟨.literal (.text (String.ofList value)), line⟩], text.length + 1) := by
    intro embed line
    simp only [Literal.read, Option.bind_eq_bind, Option.bind_eq_some_iff] at read
    obtain ⟨⟨content, width⟩, found, characters, valued, same⟩ := read
    cases same
    have notName : Text.isIdentifierStart quote = false := by obtain rfl | rfl := isQuote <;> decide
    have opens : (quote == '"' || quote == '\'') = true := by obtain rfl | rfl := isQuote <;> decide
    simp [Token.read, notName, opens, Token.readLiteral, found, valued, Token.literalValue]
  have found : Leads ⟨quote :: (text ++ rest), depth, levels, false⟩ [.literal (.text (String.ofList value))]
      ⟨(text ++ rest).drop (text.length + 1 - 1), depth, levels, false⟩ :=
    token visible literalRead fun line => rfl
  rwa [Nat.add_sub_cancel, List.drop_left] at found

end Leads

/-- What lines of code are made of. -/
inductive Part
  | word (text : String)
  | sign (symbol : Sign)
  | blank
  | lineBreak
  | quoted (quote : Char) (name : String)
  | documentation (text : String)

namespace Part

def text : Part → List Char
  | word text => text.toList
  | sign symbol => symbol.text.toList
  | blank => [' ']
  | lineBreak => ['\n']
  | quoted quote name => quote :: (name.toList ++ [quote])
  | documentation text => '"' :: '"' :: '"' :: (Docstring.escape text.toList ++ ['"', '"', '"'])

/-- The token that a part is read as, if it is one. -/
def kinds : Part → List TokenKind
  | word text => [.name text]
  | sign symbol => [.mark symbol.text]
  | blank | lineBreak => []
  | quoted _ name => [.literal (.text name)]
  | documentation text => [.literal (.text (Docstring.asRead text))]

/-- Words are names, and so is what stands in quotes. Documentation says anything, but holds no null character. -/
@[simp] def Spelled : Part → Prop
  | word text => Sdl.isName text.toList = true
  | quoted quote name => (quote = '"' ∨ quote = '\'') ∧ Sdl.isName name.toList = true
  | documentation text => '\x00' ∉ text.toList
  | sign _ | blank | lineBreak => True

/-- Whether what a part says is free of null characters, whatever else it is. -/
@[simp] def IsFree : Part → Prop
  | word text | documentation text => '\x00' ∉ text.toList
  | quoted quote text => quote ≠ '\x00' ∧ '\x00' ∉ text.toList
  | sign _ | blank | lineBreak => True

/-- Whether one part can stand directly in front of another: a word ends before a blank or a sign, and a sign that a
longer one begins with ends before anything but a sign. -/
@[simp] def Fits : Part → Part → Prop
  | word _, blank | word _, lineBreak | word _, sign _ => True
  | word _, _ => False
  | sign first, sign _ => first.isWhole = true
  | _, _ => True

/-- How many brackets are open behind a part. -/
@[simp] def behind (depth : Nat) : Part → Nat
  | sign symbol => symbol.behind depth
  | _ => depth

/-- Where a part can stand: a line goes on behind a line break between brackets only. -/
@[simp] def StandsIn (depth : Nat) : Part → Prop
  | lineBreak => 0 < depth
  | _ => True

/-- Where a part ends before some text. -/
def Ends : Part → List Char → Prop
  | word _, text => EndsWord text
  | sign symbol, text => symbol.isWhole = true ∨ EndsSign text
  | _, _ => True

variable {part next : Part} {rest : List Char}

/-- A part holds a null character only if what it says does. -/
theorem null_not_mem_of_isFree (free : part.IsFree) : '\x00' ∉ part.text := by
  cases part with
  | word text => exact free
  | sign symbol => cases symbol <;> decide
  | blank | lineBreak => decide
  | quoted quote text =>
    obtain ⟨notQuote, notInText⟩ := free
    simp [Part.text, Ne.symm notQuote, notInText]
  | documentation text =>
    intro member
    have inside : '\x00' ∈ Docstring.escape text.toList := by simpa [Part.text] using member
    obtain inText | other := Docstring.mem_of_mem_escape inside
    · exact free inText
    · exact absurd other (by decide)

theorem Spelled.isFree (spelled : part.Spelled) : part.IsFree := by
  cases part with
  | word text => exact null_not_mem_of_isName spelled
  | quoted quote name =>
    obtain ⟨isQuote, named⟩ := spelled
    exact ⟨by obtain rfl | rfl := isQuote <;> decide, null_not_mem_of_isName named⟩
  | documentation text => exact spelled
  | sign _ | blank | lineBreak => trivial

theorem null_not_mem (spelled : part.Spelled) : '\x00' ∉ part.text := null_not_mem_of_isFree spelled.isFree

/-- A part ends before a character that goes on in no sign, and in no word either where the part is one. -/
theorem ends_cons {c : Char} (rest : List Char)
    (endsWord : ∀ text, part = .word text → Text.isIdentifierContinue c = false ∧ c ≠ '"' ∧ c ≠ '\'')
    (endsSign : c ≠ '=' ∧ c ≠ '.' ∧ c.isDigit = false) : part.Ends (c :: rest) := by
  cases part with
  | word text =>
    rintro d ⟨⟩
    exact endsWord text rfl
  | sign symbol =>
    refine .inr ?_
    rintro d ⟨⟩
    exact endsSign
  | blank | lineBreak | quoted _ _ | documentation _ => trivial

theorem ends_lineEnd (part : Part) (rest : List Char) : part.Ends ('\n' :: rest) :=
  ends_cons rest (fun _ _ => by decide) (by decide)

/-- A part begins with a character that makes no line end, and that ends what the part fits behind. -/
theorem begins_of_fits (fits : part.Fits next) (spelled : next.Spelled) :
    ∃ c more, next.text = c :: more ∧ c ≠ '\r' ∧ ∀ text, part.Ends (c :: text) := by
  cases next with
  | word text =>
    obtain ⟨c, rest, begins, start, _⟩ := exists_of_isName spelled
    have differs : ∀ d, Sdl.isNameStart d = false → c ≠ d := by
      rintro d notStart rfl
      exact absurd start (by rw [notStart]; decide)
    have endsSign : c ≠ '=' ∧ c ≠ '.' ∧ c.isDigit = false :=
      ⟨differs '=' (by decide), differs '.' (by decide), not_isDigit_of_isNameStart start⟩
    refine ⟨c, rest, begins, differs '\r' (by decide), fun text => ends_cons text ?_ endsSign⟩
    rintro _ rfl
    exact fits.elim
  | sign symbol =>
    obtain ⟨c, rest, begins, plain, ends⟩ : ∃ c rest, symbol.text.toList = c :: rest ∧ c ≠ '\r' ∧
        Text.isIdentifierContinue c = false ∧ c ≠ '"' ∧ c ≠ '\'' := by
      cases symbol <;> refine ⟨_, _, rfl, ?_⟩ <;> decide
    refine ⟨c, rest, begins, plain, fun text => ?_⟩
    -- A sign may go on in a longer one, so what ends one in front of it is that it is whole.
    cases part with
    | word _ =>
      rintro d ⟨⟩
      exact ends
    | sign first => exact .inl fits
    | blank | lineBreak | quoted _ _ | documentation _ => trivial
  | blank => exact ⟨' ', [], rfl, by decide, fun text => ends_cons text (fun _ _ => by decide) (by decide)⟩
  | lineBreak => exact ⟨'\n', [], rfl, by decide, part.ends_lineEnd⟩
  | quoted quote name =>
    have isQuote := spelled.1
    have endsSign : quote ≠ '=' ∧ quote ≠ '.' ∧ quote.isDigit = false := by obtain rfl | rfl := isQuote <;> decide
    refine ⟨quote, _, rfl, by obtain rfl | rfl := isQuote <;> decide, fun text => ends_cons text ?_ endsSign⟩
    rintro _ rfl
    exact fits.elim
  | documentation _ =>
    refine ⟨'"', _, rfl, by decide, fun text => ends_cons text ?_ (by decide)⟩
    rintro _ rfl
    exact fits.elim

theorem ends_of_fits (fits : part.Fits next) (spelled : next.Spelled) :
    part.Ends (Text.unifyLineEnds (next.text ++ rest)) := by
  obtain ⟨c, more, begins, plain, ends⟩ := begins_of_fits fits spelled
  rw [begins, List.cons_append, Text.unifyLineEnds_cons plain]
  exact ends _

/-- What begins a line stands in the way of blanks, comments and line ends. -/
theorem visible (spelled : part.Spelled) (notBlank : part ≠ .blank) (notBreak : part ≠ .lineBreak) :
    ∃ c more, part.text = c :: more ∧ c ≠ '\r' ∧ IsVisible c := by
  cases part with
  | word text =>
    obtain ⟨c, rest, begins, start, _⟩ := exists_of_isName spelled
    refine ⟨c, rest, begins, ?_, .of_name start⟩
    rintro rfl
    exact absurd start (by decide)
  | sign symbol =>
    obtain ⟨c, rest, begins, visible, _⟩ := symbol.begins
    refine ⟨c, rest, begins, ?_, visible⟩
    rintro rfl
    cases symbol <;> cases begins
  | blank => exact absurd rfl notBlank
  | lineBreak => exact absurd rfl notBreak
  | quoted quote name =>
    obtain ⟨isQuote, _⟩ := spelled
    refine ⟨quote, _, rfl, ?_, ⟨?_, ?_, ?_, ?_⟩⟩ <;> obtain rfl | rfl := isQuote <;> decide
  | documentation _ => refine ⟨'"', _, rfl, ?_, ⟨?_, ?_, ?_, ?_⟩⟩ <;> decide

/-- No line end begins in one part and ends behind it. -/
theorem unifyLineEnds_append (spelled : part.Spelled) (rest : List Char) :
    Text.unifyLineEnds (part.text ++ rest) = Text.unifyLineEnds part.text ++ Text.unifyLineEnds rest := by
  cases part with
  | word text =>
    have plain := return_not_mem_of_isName spelled
    rw [Part.text, Text.unifyLineEnds_append plain, Text.unifyLineEnds_of_plain plain]
  | sign symbol =>
    have plain : '\r' ∉ symbol.text.toList := by cases symbol <;> decide
    rw [Part.text, Text.unifyLineEnds_append plain, Text.unifyLineEnds_of_plain plain]
  | blank =>
    have plain : '\r' ∉ [' '] := by decide
    exact Text.unifyLineEnds_append plain rest
  | lineBreak =>
    have plain : '\r' ∉ ['\n'] := by decide
    exact Text.unifyLineEnds_append plain rest
  | quoted quote name =>
    have whole := Text.unifyLineEnds_concat_append (c := quote) (by obtain ⟨rfl | rfl, _⟩ := spelled <;> decide)
      (by obtain ⟨rfl | rfl, _⟩ := spelled <;> decide) (quote :: name.toList) rest
    simpa [Part.text] using whole
  | documentation text =>
    have whole := Text.unifyLineEnds_concat_append (c := '"') (by decide) (by decide)
      ('"' :: '"' :: '"' :: (Docstring.escape text.toList ++ ['"', '"'])) rest
    simpa [Part.text] using whole

theorem leads {depth : Nat} {levels : List Indentation} (spelled : part.Spelled) (stands : part.StandsIn depth)
    (ends : part.Ends rest) (room : part.behind depth ≤ Formatted.nestingLimit) :
    Leads ⟨Text.unifyLineEnds part.text ++ rest, depth, levels, false⟩ part.kinds
      ⟨rest, part.behind depth, levels, false⟩ := by
  cases part with
  | word text =>
    rw [Part.text, Text.unifyLineEnds_of_plain (return_not_mem_of_isName spelled)]
    exact .word spelled ends
  | sign symbol =>
    rw [Part.text, Text.unifyLineEnds_of_plain (by cases symbol <;> decide)]
    exact .sign symbol ends room
  | blank => exact .blank
  | lineBreak => exact .lineBreak stands
  | quoted quote name =>
    obtain ⟨isQuote, named⟩ := spelled
    have plain : '\r' ∉ quote :: (name.toList ++ [quote]) := by
      have notReturn : '\r' ≠ quote := by obtain rfl | rfl := isQuote <;> decide
      simp [notReturn, return_not_mem_of_isName named]
    rw [Part.text, Text.unifyLineEnds_of_plain plain]
    have read := Literal.read_name isQuote named rest
    have whole : Leads _ _ ⟨rest, depth, levels, false⟩ := Leads.literal isQuote read
    rwa [String.ofList_toList] at whole
  | documentation text =>
    have unified : Text.unifyLineEnds (Part.documentation text).text = '"' :: ('"' :: '"' ::
        (Docstring.escape (Text.unifyLineEnds text.toList) ++ ['"', '"', '"'])) := by
      have plain : '\r' ∉ ['"', '"', '"'] := by decide
      have front := Text.unifyLineEnds_append plain (Docstring.escape text.toList ++ ['"', '"', '"'])
      rw [Text.unifyLineEnds_append_cons (by decide), Docstring.unifyLineEnds_escape,
        Text.unifyLineEnds_of_plain plain] at front
      exact front
    have read := Docstring.read_escape (Text.unifyLineEnds text.toList) rest
    rw [unified]
    refine Leads.literal (.inl rfl) ?_
    simpa using read

end Part

/-- Every bracket in a line is closed again, and not too many are open at once. -/
@[simp] def Balanced : Nat → List Part → Prop
  | depth, [] => depth = 0
  | depth, part :: rest =>
    part.StandsIn depth ∧ part.behind depth ≤ Formatted.nestingLimit ∧ Balanced (part.behind depth) rest

/-- Parts that make a line of code. -/
@[mk_iff] structure IsLine (parts : List Part) : Prop where
  spelled : ∀ part ∈ parts, part.Spelled
  fits : parts.IsChain Part.Fits
  balanced : Balanced 0 parts
  begins : ∀ part ∈ parts.head?, part ≠ .blank
  isSome : parts ≠ []

variable {parts : List Part} {rest : List Char} {levels : List Indentation} {kinds : List TokenKind}

/-- The parts of a line are read as their tokens. -/
theorem leads_parts {depth : Nat} (spelled : ∀ part ∈ parts, part.Spelled) (fits : parts.IsChain Part.Fits)
    (balanced : Balanced depth parts) :
    Leads ⟨Text.unifyLineEnds (parts.flatMap Part.text ++ '\n' :: rest), depth, levels, false⟩
      (parts.flatMap Part.kinds ++ [.lineEnd]) ⟨Text.unifyLineEnds rest, 0, levels, true⟩ := by
  induction parts generalizing depth with
  | nil =>
    obtain rfl : depth = 0 := balanced
    rw [List.flatMap_nil, List.nil_append, Text.unifyLineEnds_cons (by decide)]
    exact .lineEnd
  | cons part parts ih =>
    obtain ⟨stands, room, balanced⟩ := balanced
    have spelledHere := spelled part List.mem_cons_self
    have later := ih (fun other member => spelled other (List.mem_cons_of_mem _ member)) fits.tail balanced
    rw [List.flatMap_cons, List.flatMap_cons, List.append_assoc, List.append_assoc,
      Part.unifyLineEnds_append spelledHere]
    refine (Part.leads spelledHere stands ?_ room).trans later
    cases parts with
    | nil =>
      rw [List.flatMap_nil, List.nil_append, Text.unifyLineEnds_cons (by decide)]
      exact part.ends_lineEnd _
    | cons next parts =>
      rw [List.flatMap_cons, List.append_assoc]
      exact Part.ends_of_fits (List.isChain_cons_cons.mp fits).1 (spelled next (by simp))

/-- Rows of code: a blank line, or some blanks and a line of parts. -/
inductive Row
  | blank
  | line (indentation : Nat) (parts : List Part)

def Row.text : Row → List Char
  | blank => ['\n']
  | line indentation parts => List.replicate indentation ' ' ++ parts.flatMap Part.text ++ ['\n']

/-- How rows are arranged in blocks, behind rows that have left some levels of indentation open: what tokens they are
read as. -/
inductive Laid : List Indentation → List Row → List TokenKind → Prop
  | done (levels : List Indentation) : Laid levels [] (levels.map fun _ => .dedent)
  | blank {levels : List Indentation} {rows : List Row} {kinds : List TokenKind} (behind : Laid levels rows kinds) :
      Laid levels (.blank :: rows) kinds
  | line {levels open' : List Indentation} {opening kinds : List TokenKind} {rows : List Row} {indentation : Nat}
      {parts : List Part} (isLine : IsLine parts)
      (arranged : Indentation.arrange ⟨indentation, indentation⟩ levels = some (opening, open'))
      (behind : Laid open' rows kinds) :
      Laid levels (.line indentation parts :: rows) (opening ++ (parts.flatMap Part.kinds ++ .lineEnd :: kinds))

/-- A line is read as its tokens, behind what its indentation opens or closes. -/
theorem IsLine.leads {opening : List TokenKind} {inner : List Indentation} {indentation : Nat} (isLine : IsLine parts)
    (arranged : Indentation.arrange ⟨indentation, indentation⟩ levels = some (opening, inner)) (rest : List Char) :
    Leads ⟨Text.unifyLineEnds ((Row.line indentation parts).text ++ rest), 0, levels, true⟩
      (opening ++ (parts.flatMap Part.kinds ++ [.lineEnd])) ⟨Text.unifyLineEnds rest, 0, inner, true⟩ := by
  have inLine : Leads _ _ ⟨Text.unifyLineEnds rest, 0, inner, true⟩ :=
    leads_parts isLine.spelled isLine.fits isLine.balanced
  obtain ⟨first, others, rfl⟩ := List.exists_cons_of_ne_nil isLine.isSome
  have notBreak : first ≠ .lineBreak := by
    rintro rfl
    exact absurd isLine.balanced.1 (Nat.lt_irrefl 0)
  obtain ⟨c, more, begins, plain, visible⟩ :=
    Part.visible (isLine.spelled first List.mem_cons_self) (isLine.begins first rfl) notBreak
  have noReturn : '\r' ∉ List.replicate indentation ' ' := by simp
  rw [List.flatMap_cons, begins, List.cons_append, List.cons_append, Text.unifyLineEnds_cons plain] at inLine
  rw [Row.text, List.append_assoc, List.append_assoc, Text.unifyLineEnds_append noReturn,
    List.flatMap_cons, begins, List.cons_append, List.cons_append, List.singleton_append,
    Text.unifyLineEnds_cons plain]
  exact (Leads.lineStart visible arranged).trans inLine

theorem Row.leads_blank (rest : List Char) :
    Leads ⟨Text.unifyLineEnds (Row.blank.text ++ rest), 0, levels, true⟩ []
      ⟨Text.unifyLineEnds rest, 0, levels, true⟩ := by
  rw [Row.text, List.singleton_append, Text.unifyLineEnds_cons (by decide)]
  have noBlanks : ∀ d ∈ ([] : List Char), Indentation.isBlank d = true := by simp
  exact Leads.blankLine noBlanks

theorem Laid.scans {rows : List Row} (laid : Laid levels rows kinds) :
    Scans ⟨Text.unifyLineEnds (rows.flatMap Row.text), 0, levels, true⟩ kinds := by
  induction laid with
  | done levels => exact .finished 0 levels
  | blank behind ih =>
    rw [List.flatMap_cons]
    exact (Row.leads_blank _).scans ih
  | line isLine arranged behind ih =>
    have scanned := (isLine.leads arranged _).scans ih
    simpa using scanned

theorem Laid.null_not_mem {rows : List Row} (laid : Laid levels rows kinds) : '\x00' ∉ rows.flatMap Row.text := by
  induction laid with
  | done levels => simp
  | blank behind ih => simpa [Row.text] using ih
  | line isLine arranged behind ih =>
    have inLine : '\x00' ∉ List.flatMap Part.text _ := fun member => by
      obtain ⟨part, listed, inPart⟩ := List.mem_flatMap.mp member
      exact Part.null_not_mem (isLine.spelled part listed) inPart
    simpa [Row.text, ih] using inLine

/-- Code that is laid out in rows is cut into the tokens of its rows. -/
theorem Laid.ofText {rows : List Row} (laid : Laid [] rows kinds) :
    ∃ tokens, Token.ofText (rows.flatMap Row.text) = some tokens ∧ tokens.map Token.kind = kinds :=
  laid.scans _ 1

end SelectionGen.Target
