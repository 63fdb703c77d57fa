import Mathlib.Computability.Language
import SelectionGen.Settings.Validate
import SelectionGen.Target.Package

/-! Which texts name packages. The regular expression that they are checked against means identifiers of the basic
alphabet with single dots between them, and its end is met in front of a line feed that ends the text as well. So one
line feed gets through that no name should have. Without it the name is made of identifiers alone, and so are the parts
of the path that it is written as. -/
namespace SelectionGen.Settings

open Computability

/-! The regular expression, as a language: `[A-Za-z_]`, `[A-Za-z0-9_]` and what is made from them. -/

/-- What an identifier begins with. -/
def Opens (c : Char) : Prop := ('A' ≤ c ∧ c ≤ 'Z') ∨ ('a' ≤ c ∧ c ≤ 'z') ∨ c = '_'

/-- What an identifier goes on with. -/
def Continues (c : Char) : Prop := Opens c ∨ ('0' ≤ c ∧ c ≤ '9')

/-- The texts of one character with a property. -/
def oneOf (p : Char → Prop) : Language Char := fun text => ∃ c, p c ∧ text = [c]

def identifiers : Language Char := oneOf Opens * (oneOf Continues)∗

def dottedNames : Language Char := identifiers * (oneOf (· = '.') * identifiers)∗

/-- What is left of a text where the end of the expression is met. -/
def ends : Language Char := 1 + oneOf (· = '\n')

theorem mem_star_oneOf {p : Char → Prop} {text : List Char} : text ∈ (oneOf p)∗ ↔ ∀ c ∈ text, p c := by
  constructor
  · rintro ⟨parts, rfl, each⟩ c member
    obtain ⟨part, listed, inPart⟩ := List.mem_flatten.mp member
    obtain ⟨found, holds, rfl⟩ := each part listed
    rwa [List.mem_singleton.mp inPart]
  · intro each
    refine ⟨text.map fun c => [c], by rw [← List.flatMap_def, List.flatMap_singleton'], ?_⟩
    intro part member
    obtain ⟨c, inText, rfl⟩ := List.mem_map.mp member
    exact ⟨c, each c inText, rfl⟩

theorem mem_identifiers {text : List Char} :
    text ∈ identifiers ↔ ∃ first rest, text = first :: rest ∧ Opens first ∧ ∀ c ∈ rest, Continues c := by
  constructor
  · rintro ⟨_, ⟨first, opens, rfl⟩, rest, continues, rfl⟩
    exact ⟨first, rest, rfl, opens, mem_star_oneOf.mp continues⟩
  · rintro ⟨first, rest, rfl, opens, continues⟩
    exact ⟨[first], ⟨first, opens, rfl⟩, rest, mem_star_oneOf.mpr continues, rfl⟩

/-- A text is identifiers with single dots between them. -/
def IsDotted (text : List Char) : Prop :=
  ∃ first others, (∀ part ∈ first :: others, part ∈ identifiers) ∧ text = first ++ others.flatMap ('.' :: ·)

/-- What the repeated group of the expression matches. -/
theorem exists_parts_of_star {text : List Char} (repeated : text ∈ (oneOf (· = '.') * identifiers)∗) :
    ∃ parts : List (List Char), (∀ part ∈ parts, part ∈ identifiers) ∧ text = parts.flatMap ('.' :: ·) := by
  obtain ⟨steps, rfl, each⟩ := repeated
  induction steps with
  | nil => exact ⟨[], List.forall_mem_nil _, rfl⟩
  | cons step steps ih =>
    obtain ⟨⟨_, ⟨c, rfl, rfl⟩, part, named, rfl⟩, later⟩ := List.forall_mem_cons.mp each
    obtain ⟨parts, alsoNamed, whole⟩ := ih later
    exact ⟨part :: parts, List.forall_mem_cons.mpr ⟨named, alsoNamed⟩, by simp [whole]⟩

theorem mem_dottedNames {text : List Char} : text ∈ dottedNames ↔ IsDotted text := by
  constructor
  · rintro ⟨first, named, _, repeated, rfl⟩
    obtain ⟨others, alsoNamed, rfl⟩ := exists_parts_of_star repeated
    exact ⟨first, others, List.forall_mem_cons.mpr ⟨named, alsoNamed⟩, rfl⟩
  · rintro ⟨first, others, each, rfl⟩
    obtain ⟨named, alsoNamed⟩ := List.forall_mem_cons.mp each
    refine ⟨first, named, _, ⟨others.map ('.' :: ·), rfl, ?_⟩, by simp [List.flatMap_def]⟩
    intro step member
    obtain ⟨part, listed, rfl⟩ := List.mem_map.mp member
    exact ⟨['.'], ⟨'.', rfl, rfl⟩, part, alsoNamed part listed, rfl⟩

/-! The check that is made, character by character and part by part. -/

theorem isNameStart_iff {c : Char} : Sdl.isNameStart c = true ↔ Opens c := by
  change (decide ('A'.val ≤ c.val ∧ c.val ≤ 'Z'.val) || decide ('a'.val ≤ c.val) && decide (c.val ≤ 'z'.val)
    || c == '_') = true ↔ _
  simp only [Opens, Bool.or_eq_true, Bool.and_eq_true, decide_eq_true_eq, beq_iff_eq, Char.le_def, or_assoc]

theorem isNameContinue_iff {c : Char} : Sdl.isNameContinue c = true ↔ Continues c := by
  simp only [Sdl.isNameContinue, Bool.or_eq_true, isNameStart_iff, Continues, Char.isDigit, Bool.and_eq_true,
    decide_eq_true_eq, Char.le_def]

theorem isName_iff {text : List Char} : Sdl.isName text = true ↔ text ∈ identifiers := by
  rw [mem_identifiers]
  cases text with
  | nil => simp [Sdl.isName]
  | cons first rest => simp [Sdl.isName, isNameStart_iff, isNameContinue_iff]

/-- What identifiers are not made of is in none of them. -/
theorem not_mem_of_mem_identifiers {part : List Char} {c : Char} (named : part ∈ identifiers) (other : ¬ Continues c) :
    c ∉ part := by
  obtain ⟨first, rest, rfl, opens, continues⟩ := mem_identifiers.mp named
  intro member
  rcases List.mem_cons.mp member with rfl | later
  · exact other (.inl opens)
  · exact other (continues c later)

theorem not_continues_dot : ¬ Continues '.' := by
  rw [← isNameContinue_iff]
  decide

theorem not_continues_lineFeed : ¬ Continues '\n' := by
  rw [← isNameContinue_iff]
  decide

theorem not_continues_slash : ¬ Continues '/' := by
  rw [← isNameContinue_iff]
  decide

/-- The dots of a dotted name are where it is taken apart. -/
theorem splitAt_dotted {first : List Char} {others : List (List Char)}
    (each : ∀ part ∈ first :: others, part ∈ identifiers) :
    Text.splitAt '.' (first ++ others.flatMap ('.' :: ·)) = first :: others :=
  Text.splitAt_joined fun part member => not_mem_of_mem_identifiers (each part member) not_continues_dot

theorem isDottedName_iff {text : List Char} : isDottedName text = true ↔ IsDotted text := by
  rw [isDottedName, List.all_eq_true]
  constructor
  · intro each
    obtain ⟨first, others, split⟩ := List.exists_cons_of_ne_nil (Text.splitAt_ne_nil '.' text)
    refine ⟨first, others, ?_, (Text.joined_splitAt '.' text split).symm⟩
    intro part member
    exact isName_iff.mp (each part (split ▸ member))
  · rintro ⟨first, others, each, rfl⟩ part member
    rw [splitAt_dotted each] at member
    exact isName_iff.mpr (each part member)

theorem IsDotted.each {text : List Char} (dotted : IsDotted text) : ∀ c ∈ text, Continues c ∨ c = '.' := by
  obtain ⟨first, others, each, rfl⟩ := dotted
  have inPart : ∀ part ∈ first :: others, ∀ c ∈ part, Continues c := by
    intro part member c inside
    obtain ⟨initial, rest, rfl, opens, continues⟩ := mem_identifiers.mp (each part member)
    rcases List.mem_cons.mp inside with rfl | later
    · exact .inl opens
    · exact continues c later
  intro c member
  rcases List.mem_append.mp member with inFirst | inOthers
  · exact .inl (inPart first List.mem_cons_self c inFirst)
  · obtain ⟨part, listed, inside⟩ := List.mem_flatMap.mp inOthers
    rcases List.mem_cons.mp inside with rfl | inside
    · exact .inr rfl
    · exact .inl (inPart part (List.mem_cons_of_mem _ listed) c inside)

theorem IsDotted.lineFeed_not_mem {text : List Char} (dotted : IsDotted text) : '\n' ∉ text := by
  intro member
  rcases dotted.each _ member with continues | dot
  · exact not_continues_lineFeed continues
  · exact absurd dot (by decide)

/-- A text is accepted with a line feed behind it or without. -/
theorem acceptsPackage_iff_dotted {text : List Char} : acceptsPackage text = true ↔
    isDottedName text = true ∨ ∃ front, text = front ++ ['\n'] ∧ isDottedName front = true := by
  rw [acceptsPackage, withoutFinalLineEnd]
  by_cases ended : text.getLast? = some '\n'
  · rw [if_pos ended]
    obtain ⟨front, rfl⟩ := List.getLast?_eq_some_iff.mp ended
    rw [List.dropLast_concat]
    constructor
    · intro dotted
      exact .inr ⟨front, rfl, dotted⟩
    · rintro (dotted | ⟨other, same, dotted⟩)
      · exact absurd (by simp) (isDottedName_iff.mp dotted).lineFeed_not_mem
      · rwa [List.append_cancel_right same]
  · rw [if_neg ended]
    refine ⟨.inl, ?_⟩
    rintro (dotted | ⟨front, rfl, _⟩)
    · exact dotted
    · simp at ended

theorem PackageName.dotted_or_broken (package : PackageName) : isDottedName package.text.toList = true ∨
    ∃ front, package.text.toList = front ++ ['\n'] ∧ isDottedName front = true :=
  acceptsPackage_iff_dotted.mp package.accepted

theorem acceptsPackage_iff {text : List Char} :
    acceptsPackage text = true ↔ IsDotted text ∨ ∃ front, IsDotted front ∧ text = front ++ ['\n'] := by
  simp only [acceptsPackage_iff_dotted, isDottedName_iff, and_comm]

/-- A line feed that got through stands in the last part of a name. -/
theorem pieces_of_accepted {text : List Char} (accepted : acceptsPackage text = true) :
    ∀ piece ∈ Text.splitAt '.' text, ∃ first rest, piece = first :: rest ∧ Opens first ∧
      ∀ c ∈ rest, Continues c ∨ c = '\n' := by
  have named {text : List Char} (dotted : isDottedName text = true) : ∀ piece ∈ Text.splitAt '.' text,
      ∃ first rest, piece = first :: rest ∧ Opens first ∧ ∀ c ∈ rest, Continues c ∨ c = '\n' := by
    intro piece member
    obtain ⟨first, rest, rfl, opens, continues⟩ :=
      mem_identifiers.mp (isName_iff.mp (List.all_eq_true.mp dotted piece member))
    exact ⟨first, rest, rfl, opens, fun c inRest => .inl (continues c inRest)⟩
  rcases acceptsPackage_iff_dotted.mp accepted with dotted | ⟨front, rfl, dotted⟩
  · exact named dotted
  · obtain ⟨pieces, last, whole, extended⟩ := Text.splitAt_concat (show '\n' ≠ '.' by decide) front
    have inFront := named dotted
    rw [whole] at inFront
    rw [extended]
    intro piece member
    rcases List.mem_append.mp member with before | isLast
    · exact inFront piece (List.mem_append_left _ before)
    · obtain ⟨first, rest, rfl, opens, continues⟩ := inFront last (List.mem_append_right _ List.mem_cons_self)
      refine ⟨first, rest ++ ['\n'], List.mem_singleton.mp isLast, opens, ?_⟩
      exact List.forall_mem_append.mpr ⟨continues, List.forall_mem_singleton.mpr (.inr rfl)⟩

/-- The check accepts what the expression matches. -/
theorem acceptsPackage_iff_matches {text : List Char} : acceptsPackage text = true ↔ text ∈ dottedNames * ends := by
  rw [acceptsPackage_iff]
  constructor
  · rintro (dotted | ⟨front, dotted, rfl⟩)
    · exact ⟨text, mem_dottedNames.mpr dotted, [], .inl rfl, List.append_nil _⟩
    · exact ⟨front, mem_dottedNames.mpr dotted, ['\n'], .inr ⟨'\n', rfl, rfl⟩, rfl⟩
  · intro matched
    obtain ⟨front, dotted, _, rfl | ⟨c, rfl, rfl⟩, rfl⟩ := Language.mem_mul.mp matched
    · exact .inl (mem_dottedNames.mp (by rwa [List.append_nil]))
    · exact .inr ⟨front, mem_dottedNames.mp dotted, rfl⟩

/-! The paths that names are written as. -/

theorem packagePath_append (package name : String) (undotted : '.' ∉ name.toList) :
    Target.packagePath (package ++ "." ++ name) = Target.packagePath package ++ "/" ++ name := by
  have kept : name.toList.map (fun c => if c = '.' then '/' else c) = name.toList :=
    (List.map_congr_left fun c member => if_neg (ne_of_mem_of_not_mem member undotted)).trans (List.map_id _)
  refine String.toList_inj.mp ?_
  simp [Target.packagePath, kept]

/-- The parts of a path that a dotted name is written as are its identifiers. -/
theorem splitSlashes_packagePath_eq {text : String} (unslashed : '/' ∉ text.toList) :
    Files.splitSlashes (Target.packagePath text) = Text.pieces '.' text := by
  rw [Files.splitSlashes, Text.pieces, Target.packagePath, String.toList_ofList, Text.pieces]
  congr 1
  generalize text.toList = characters at unslashed
  induction characters with
  | nil => rfl
  | cons c rest ih =>
    obtain ⟨differs, later⟩ := not_or.mp (List.mem_cons.not.mp unslashed)
    by_cases dot : c = '.'
    · simp [Text.splitAt, dot, ih later]
    · simp [Text.splitAt, dot, Ne.symm differs, ih later]

theorem IsDotted.splitSlashes_packagePath {text : String} (dotted : IsDotted text.toList) :
    ∀ part ∈ Files.splitSlashes (Target.packagePath text), part.toList ∈ identifiers := by
  have unslashed : '/' ∉ text.toList := by
    intro member
    rcases dotted.each _ member with continues | dot
    · exact not_continues_slash continues
    · exact absurd dot (by decide)
  rw [splitSlashes_packagePath_eq unslashed, Text.pieces]
  obtain ⟨first, others, each, whole⟩ := dotted
  rw [whole, splitAt_dotted each]
  intro part member
  obtain ⟨piece, listed, rfl⟩ := List.mem_map.mp member
  rw [String.toList_ofList]
  exact each piece listed

/-! The check of a setting. -/

variable {location : List Key} {text : String}

theorem checkPackage_of_accepted (accepted : acceptsPackage text.toList = true) :
    checkPackage location (.string text) = .ok ⟨text, accepted⟩ := by
  have found : PackageName.ofString? text = some ⟨text, accepted⟩ := dif_pos accepted
  simp [checkPackage, checkText, found, bind, Except.bind]

theorem checkPackage_of_refused (refused : ¬ acceptsPackage text.toList = true) :
    checkPackage location (.string text) = refuse location (.badPackage text) := by
  have none : PackageName.ofString? text = none := dif_neg refused
  simp [checkPackage, checkText, none, bind, Except.bind]

/-- **A text is accepted for a package exactly if it is identifiers of the basic alphabet with single dots between
them, or that with one line feed behind it.** Every other text is refused, with the message that shows it. What is
accepted is taken as it is. Without the line feed there is nothing in it but what identifiers are made of and dots, and
the directories that it is written as are called by its identifiers. -/
theorem checkPackage_string (location : List Key) (text : String) :
    ((∃ name, checkPackage location (.string text) = .ok name) ↔
      IsDotted text.toList ∨ ∃ front, IsDotted front ∧ text.toList = front ++ ['\n']) ∧
    ((∃ name, checkPackage location (.string text) = .ok name ∧ name.text = text) ∨
      checkPackage location (.string text) = refuse location (.badPackage text)) ∧
    (IsDotted text.toList → (∀ c ∈ text.toList, Continues c ∨ c = '.') ∧
      ∀ part ∈ Files.splitSlashes (Target.packagePath text), part.toList ∈ identifiers) := by
  rw [← acceptsPackage_iff]
  refine ⟨?_, ?_, fun dotted => ⟨dotted.each, dotted.splitSlashes_packagePath⟩⟩
  · by_cases accepted : acceptsPackage text.toList = true
    · exact iff_of_true ⟨_, checkPackage_of_accepted accepted⟩ accepted
    · refine iff_of_false ?_ accepted
      rintro ⟨name, done⟩
      cases (checkPackage_of_refused accepted).symm.trans done
  · by_cases accepted : acceptsPackage text.toList = true
    · exact .inl ⟨_, checkPackage_of_accepted accepted, rfl⟩
    · exact .inr (checkPackage_of_refused accepted)

/-- A name with a line feed behind it is accepted, though it is no dotted name. -/
theorem lineFeed_accepted : (∃ name, checkPackage [.name "package_name"] (.string "generated\n") = .ok name) ∧
    ¬ IsDotted "generated\n".toList :=
  ⟨⟨⟨"generated\n", by decide⟩, by decide⟩, fun dotted => dotted.lineFeed_not_mem (by decide)⟩

end SelectionGen.Settings
