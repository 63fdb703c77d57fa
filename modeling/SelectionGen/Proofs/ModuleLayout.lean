import Mathlib.Tactic.SplitIfs
import SelectionGen.Proofs.Layout
import SelectionGen.Settings.Basic
import SelectionGen.Target.Reading

/-! Modules as rows of code. What a module is written as is that of its rows: a title, lines that import something,
and classes with methods in them, each line put together from parts. Whether the lines are spelled correctly depends on
the names in them only, whatever is documented in between. -/
namespace SelectionGen.Target

open Target.Part

/-- Documentation on a line of its own. -/
def documentationLines : Option String → List (List Part)
  | none => []
  | some text => [[documentation text]]

namespace Method

def headLine (owner : String) (method : Method) : List Part :=
  [word "def", blank, word method.name, sign .parenOpen, word "self"] ++
    match method.body with
    | .leaf => [sign .parenClose, blank, sign .arrow, blank, quoted '"' owner, sign .colon]
    | .composite localClass =>
      [sign .comma, blank, word "init_block", sign .colon, blank, word "Callable", sign .bracketOpen, sign .bracketOpen,
        quoted '"' localClass, sign .bracketClose, sign .comma, blank, word "Any", sign .bracketClose, sign .parenClose,
        blank, sign .arrow, blank, quoted '"' localClass, sign .colon]

/-- The line in which a method records its field. -/
def recordLine (method : Method) (value : String) : List Part :=
  [word "self", sign .dot, word "fields", sign .bracketOpen, quoted '\'' method.fieldName, sign .bracketClose, blank,
    sign .equals, blank, word value]

def bodyLines (method : Method) : List (List Part) :=
  match method.body with
  | .leaf => [method.recordLine "None", [word "return", blank, word "self"]]
  | .composite localClass =>
    [[word "projection", blank, sign .equals, blank, word localClass, sign .parenOpen, sign .parenClose],
      method.recordLine "projection",
      [word "init_block", sign .parenOpen, word "projection", sign .parenClose],
      [word "return", blank, word "projection"]]

def rows (owner : String) (method : Method) : List Row :=
  .line 4 (method.headLine owner) :: (documentationLines method.description ++ method.bodyLines).map (.line 8)

end Method

theorem renderDocumentation_toList {indentation : String} {width : Nat}
    (blanks : indentation.toList = List.replicate width ' ') (description : Option String) :
    (renderDocumentation indentation description).toList
      = ((documentationLines description).map (Row.line width)).flatMap Row.text := by
  cases description with
  | none => rfl
  | some text => simp [renderDocumentation, documentationLines, Row.text, Part.text, tripleQuote, docstringText, blanks]

/-- A name needs no escapes and stands in single quotes. -/
theorem quoted_name {name : String} (named : Sdl.isName name.toList = true) :
    (Text.quoted name).toList = '\'' :: (name.toList ++ ['\'']) := by
  have plain := plain_of_isName named
  have quote : Text.Quoted.quoteFor name.toList = '\'' := by
    have absent : name.toList.contains '\'' = false := by
      simpa using fun member => (plain '\'' member).2.2.2.2 rfl
    rw [Text.Quoted.quoteFor, absent]
    rfl
  have written : ∀ c ∈ name.toList, Text.Quoted.escape '\'' c = [c] := by
    intro c member
    obtain ⟨notReturn, notLineEnd, notSlash, _, notQuote⟩ := plain c member
    have bounds := bounds_of_isNameContinue (continues_of_isName named c member)
    have notTab : c ≠ '\t' := by
      rintro rfl
      exact absurd bounds (by decide)
    have printable : Text.isPrintable c = true := by
      rw [Text.isPrintable, if_pos (by omega), Bool.and_eq_true, decide_eq_true_eq, decide_eq_true_eq]
      omega
    simp [Text.Quoted.escape, notQuote, notSlash, notLineEnd, notReturn, notTab, printable]
  have whole : name.toList.flatMap (Text.Quoted.escape '\'') = name.toList := by
    rw [List.flatMap_congr written, List.flatMap_singleton']
  rw [Text.quoted, String.toList_ofList, Text.Quoted.encode, quote, whole]
  rfl

theorem Method.render_toList (owner : String) {method : Method} (named : Sdl.isName method.fieldName.toList = true) :
    (method.render owner).toList = (method.rows owner).flatMap Row.text := by
  have quotedName := quoted_name named
  have documented := renderDocumentation_toList (show "        ".toList = List.replicate 8 ' ' from rfl)
    method.description
  cases body : method.body with
  | leaf =>
    simp [Method.render, body, Method.rows, Method.headLine, Method.bodyLines, Method.recordLine, Row.text, Part.text,
      Sign.text, quotedName, documented]
  | composite localClass =>
    simp [Method.render, body, Method.rows, Method.headLine, Method.bodyLines, Method.recordLine, Row.text, Part.text,
      Sign.text, quotedName, documented]

namespace ClassDeclaration

def decoratorLine (name : String) : List Part := [sign .atSign, word name]

def headLine (declaration : ClassDeclaration) : List Part :=
  [word "class", blank, word declaration.name, sign .parenOpen, word declaration.base, sign .parenClose, sign .colon]

def openingLines (declaration : ClassDeclaration) : List (List Part) :=
  if declaration.description.isNone && declaration.methods.isEmpty then [[word "pass"]]
  else documentationLines declaration.description

/-- Methods with blank lines between them, and one in front if there is documentation. -/
def methodRows (declaration : ClassDeclaration) : List Row :=
  match declaration.methods with
  | [] => []
  | first :: others =>
    (if declaration.description.isSome then [.blank] else []) ++ first.rows declaration.name
      ++ others.flatMap fun method => .blank :: method.rows declaration.name

def rows (declaration : ClassDeclaration) : List Row :=
  [.blank, .blank] ++ (declaration.decorators.map decoratorLine ++ [declaration.headLine]).map (.line 0)
    ++ declaration.openingLines.map (.line 4) ++ declaration.methodRows

theorem render_toList {declaration : ClassDeclaration}
    (named : ∀ method ∈ declaration.methods, Sdl.isName method.fieldName.toList = true) :
    declaration.render.toList = declaration.rows.flatMap Row.text := by
  have documented := renderDocumentation_toList (show "    ".toList = List.replicate 4 ' ' from rfl)
    declaration.description
  have opening : declaration.renderOpening.toList
      = (declaration.openingLines.map (Row.line 4)).flatMap Row.text := by
    unfold renderOpening openingLines
    split
    · rename_i undocumented empty
      simp [undocumented, empty, Row.text, Part.text]
    · rename_i notEmpty
      rw [if_neg ?_, documented]
      simpa using notEmpty
  have decorated : ("".intercalate (declaration.decorators.map fun name => "@" ++ name ++ "\n")).toList
      = ((declaration.decorators.map decoratorLine).map (Row.line 0)).flatMap Row.text := by
    rw [Text.toList_join, List.flatMap_map, List.flatMap_map, List.flatMap_map]
    refine List.flatMap_congr fun name _ => ?_
    simp [decoratorLine, Row.text, Part.text, Sign.text]
  have methods : (if declaration.description.isSome && !declaration.methods.isEmpty then "\n" else "").toList
      ++ ("\n".intercalate (declaration.methods.map (Method.render declaration.name))).toList
        = declaration.methodRows.flatMap Row.text := by
    unfold methodRows
    cases shape : declaration.methods with
    | nil => simp
    | cons first others =>
      have each : ∀ method ∈ declaration.methods, (method.render declaration.name).toList
          = (method.rows declaration.name).flatMap Row.text := fun method member =>
        Method.render_toList declaration.name (named method member)
      rw [shape] at each
      have others' : (others.map (Method.render declaration.name)).flatMap (fun text => "\n".toList ++ text.toList)
          = (others.flatMap fun method => Row.blank :: method.rows declaration.name).flatMap Row.text := by
        rw [List.flatMap_map, List.flatMap_assoc]
        refine List.flatMap_congr fun method member => ?_
        rw [each method (List.mem_cons_of_mem _ member)]
        rfl
      rw [List.map_cons, Text.toList_intercalate_cons, others', each first List.mem_cons_self]
      by_cases documented : declaration.description.isSome <;> simp [documented, Row.text]
  simp only [render, renderHead, rows, String.toList_append, decorated, opening, List.append_assoc, methods]
  simp [headLine, Row.text, Part.text, Sign.text]

end ClassDeclaration

/-- The parts of a dotted name. -/
def dottedParts (name : String) : List Part :=
  match Text.pieces '.' name with
  | [] => []
  | first :: others => word first :: others.flatMap fun part => [sign .dot, word part]

theorem dottedParts_text (name : String) : (dottedParts name).flatMap Part.text = name.toList := by
  obtain ⟨first, others, split⟩ := List.exists_cons_of_ne_nil (Text.splitAt_ne_nil '.' name.toList)
  rw [← Text.joined_splitAt '.' name.toList split, dottedParts, Text.pieces, split]
  simp [Part.text, Sign.text, List.flatMap_map, List.flatMap_assoc]

namespace Import

def entryParts (entry : ImportEntry) : List Part :=
  word entry.name ::
    match entry.alias? with
    | none => []
    | some bound => [blank, word "as", blank, word bound]

def parts (item : Import) : List Part :=
  [word "from", blank] ++ dottedParts item.source ++ [blank, word "import", blank] ++
    match item.entries with
    | [] => []
    | first :: others => entryParts first ++ others.flatMap fun entry => [sign .comma, blank] ++ entryParts entry

theorem entryParts_text (entry : ImportEntry) : (entryParts entry).flatMap Part.text = entry.render.toList := by
  unfold entryParts ImportEntry.render
  cases entry.alias? <;> simp [Part.text]

theorem render_toList (item : Import) : item.render.toList = (Row.line 0 item.parts).text := by
  have listed : (", ".intercalate (item.entries.map ImportEntry.render)).toList = (match item.entries with
      | [] => []
      | first :: others => entryParts first ++ others.flatMap fun entry => [sign .comma, blank] ++ entryParts entry
      ).flatMap Part.text := by
    cases item.entries with
    | nil => simp
    | cons first others =>
      rw [List.map_cons, Text.toList_intercalate_cons]
      simp [entryParts_text, List.flatMap_map, List.flatMap_assoc, Part.text, Sign.text]
  simp only [render, Row.text, parts, String.toList_append, List.flatMap_append, dottedParts_text, listed]
  simp [Part.text]

end Import

/-- Whether a text is written between double quotes as it is. -/
def IsPlain (text : String) : Prop := ∀ c ∈ text.toList, c ≠ '"' ∧ c ≠ '\\'

instance : DecidablePred IsPlain := fun text =>
  decidable_of_iff (text.toList.all fun c => c != '"' && c != '\\') (by simp [IsPlain])

namespace Module

/-- What a module says about itself behind its title. -/
def notice : String := "\n\nAuto-generated by gql-projgen - do not edit.\n"

/-- What every module brings in from the standard library. -/
def typing : Import := ⟨"typing", [⟨"Any", none⟩, ⟨"Callable", none⟩]⟩

def rows (written : Module) : List Row :=
  [.line 0 [documentation (written.title ++ notice)], .blank, .line 0 typing.parts, .blank]
    ++ written.imports.map (fun item => .line 0 item.parts) ++ written.classes.flatMap ClassDeclaration.rows

theorem render_toList {written : Module} (plain : IsPlain written.title)
    (named : ∀ declaration ∈ written.classes, ∀ method ∈ declaration.methods,
      Sdl.isName method.fieldName.toList = true) :
    written.render.toList = written.rows.flatMap Row.text := by
  have headed : Docstring.escape (written.title.toList ++ notice.toList) = written.title.toList ++ notice.toList := by
    refine Docstring.escape_of_plain fun c member => ?_
    rcases List.mem_append.mp member with inTitle | inNotice
    · exact plain c inTitle
    · have noticed : IsPlain notice := by decide
      exact noticed c inNotice
  have opened : (Row.line 0 [documentation (written.title ++ notice)]).text
      = tripleQuote.toList ++ written.title.toList ++ notice.toList ++ tripleQuote.toList ++ ['\n'] := by
    simp [Row.text, Part.text, headed, tripleQuote]
  have typed : (Row.line 0 typing.parts).text = "from typing import Any, Callable\n".toList := by
    rw [← Import.render_toList]
    decide
  have imported : ("".intercalate (written.imports.map Import.render)).toList
      = (written.imports.map fun item => Row.line 0 item.parts).flatMap Row.text := by
    rw [Text.toList_join, List.flatMap_map, List.flatMap_map]
    exact List.flatMap_congr fun item _ => item.render_toList
  have defined : ("".intercalate (written.classes.map ClassDeclaration.render)).toList
      = (written.classes.flatMap ClassDeclaration.rows).flatMap Row.text := by
    rw [Text.toList_join, List.flatMap_map, List.flatMap_assoc]
    exact List.flatMap_congr fun declaration member => ClassDeclaration.render_toList (named declaration member)
  simp only [render, renderHead, rows, String.toList_append, List.flatMap_append, List.flatMap_cons, imported, defined,
    opened, typed]
  simp [Row.text, notice]

end Module

/-! Spelling. Declarations are spelled correctly if their names are. Their documentation may say anything, except that
no text of a module holds a null character. -/

/-- Whether a text can be documentation. -/
def IsDocumentable (text : String) : Prop := '\x00' ∉ text.toList

instance : DecidablePred IsDocumentable := fun text => inferInstanceAs (Decidable ('\x00' ∉ text.toList))

structure Method.Spelled (method : Method) : Prop where
  name : Sdl.isName method.name.toList = true
  fieldName : Sdl.isName method.fieldName.toList = true
  localClass : ∀ localClass, method.body = .composite localClass → Sdl.isName localClass.toList = true
  description : ∀ text ∈ method.description, IsDocumentable text

structure ClassDeclaration.Spelled (declaration : ClassDeclaration) : Prop where
  name : Sdl.isName declaration.name.toList = true
  base : Sdl.isName declaration.base.toList = true
  decorators : ∀ name ∈ declaration.decorators, Sdl.isName name.toList = true
  methods : ∀ method ∈ declaration.methods, method.Spelled
  description : ∀ text ∈ declaration.description, IsDocumentable text

structure Import.Spelled (item : Import) : Prop where
  source : Settings.isDottedName item.source.toList = true
  isSome : item.entries ≠ []
  names : ∀ entry ∈ item.entries, Sdl.isName entry.name.toList = true
  aliases : ∀ entry ∈ item.entries, ∀ bound ∈ entry.alias?, Sdl.isName bound.toList = true

structure Module.Spelled (written : Module) : Prop where
  title : IsDocumentable written.title
  plainTitle : IsPlain written.title
  imports : ∀ item ∈ written.imports, item.Spelled
  classes : ∀ declaration ∈ written.classes, declaration.Spelled

section Lines

variable {owner name : String} {method : Method} {declaration : ClassDeclaration}

theorem isLine_documentation {text : String} (documents : IsDocumentable text) : IsLine [documentation text] := by
  simpa [isLine_iff, IsDocumentable] using documents

theorem Method.Spelled.headLine (spelled : method.Spelled) (owned : Sdl.isName owner.toList = true) :
    IsLine (method.headLine owner) := by
  unfold Method.headLine
  have named := spelled.name
  cases body : method.body with
  | leaf => simp [isLine_iff, Sdl.isNameStart, Sdl.isNameContinue, Formatted.nestingLimit, named, owned]
  | composite localClass =>
    have known := spelled.localClass localClass body
    simp [isLine_iff, Sdl.isNameStart, Sdl.isNameContinue, Formatted.nestingLimit, named, known]

theorem Method.Spelled.bodyLines (spelled : method.Spelled) : ∀ parts ∈ method.bodyLines, IsLine parts := by
  unfold Method.bodyLines Method.recordLine
  have named := spelled.fieldName
  cases body : method.body with
  | leaf => simp [isLine_iff, Sdl.isNameStart, Sdl.isNameContinue, Formatted.nestingLimit, named]
  | composite localClass =>
    have known := spelled.localClass localClass body
    simp [isLine_iff, Sdl.isNameStart, Sdl.isNameContinue, Formatted.nestingLimit, named, known]

theorem isLine_documentationLines {description : Option String}
    (documents : ∀ text ∈ description, IsDocumentable text) :
    ∀ parts ∈ documentationLines description, IsLine parts := by
  cases description with
  | none => simp [documentationLines]
  | some text => simpa [documentationLines] using isLine_documentation (documents text rfl)

theorem ClassDeclaration.Spelled.headLines (spelled : declaration.Spelled) :
    ∀ parts ∈ declaration.decorators.map ClassDeclaration.decoratorLine ++ [declaration.headLine], IsLine parts := by
  intro parts member
  rcases List.mem_append.mp member with decorates | heads
  · obtain ⟨name, listed, rfl⟩ := List.mem_map.mp decorates
    have named := spelled.decorators name listed
    simp [ClassDeclaration.decoratorLine, isLine_iff, Formatted.nestingLimit, named]
  · obtain rfl := List.mem_singleton.mp heads
    simp [ClassDeclaration.headLine, isLine_iff, Sdl.isNameStart, Sdl.isNameContinue, Formatted.nestingLimit,
      spelled.name, spelled.base]

theorem ClassDeclaration.Spelled.openingLines (spelled : declaration.Spelled) :
    ∀ parts ∈ declaration.openingLines, IsLine parts := by
  unfold ClassDeclaration.openingLines
  split_ifs
  · simp [isLine_iff, Sdl.isNameStart, Sdl.isNameContinue]
  · exact isLine_documentationLines spelled.description

end Lines

/-! Lines that import something hold names with signs and blanks between them, however many. -/

/-- Words with something between them, none of it a bracket. -/
structure IsPhrase (parts : List Part) : Prop where
  spelled : ∀ part ∈ parts, part.Spelled
  fits : parts.IsChain Part.Fits
  even : ∀ part ∈ parts, part.StandsIn 0 ∧ part.behind 0 = 0
  begins : ∃ text, parts.head? = some (word text)
  ends : ∃ text, parts.getLast? = some (word text)

/-- What stands between words. -/
def IsSeparator (parts : List Part) : Prop := parts = [blank] ∨ parts = [sign .dot] ∨ parts = [sign .comma, blank]

namespace IsPhrase

variable {first second between : List Part}

theorem word {text : String} (named : Sdl.isName text.toList = true) : IsPhrase [word text] where
  spelled := by simp [named]
  fits := by simp
  even := by simp
  begins := ⟨text, rfl⟩
  ends := ⟨text, rfl⟩

theorem append (front : IsPhrase first) (separator : IsSeparator between) (back : IsPhrase second) :
    IsPhrase (first ++ between ++ second) := by
  obtain ⟨head, begins⟩ := front.begins
  obtain ⟨last, ends⟩ := front.ends
  obtain ⟨head', begins'⟩ := back.begins
  obtain ⟨last', ends'⟩ := back.ends
  have spelledBetween : ∀ part ∈ between, part.Spelled := by obtain rfl | rfl | rfl := separator <;> simp
  have evenBetween : ∀ part ∈ between, part.StandsIn 0 ∧ part.behind 0 = 0 := by
    obtain rfl | rfl | rfl := separator <;> simp
  constructor
  · exact List.forall_mem_append.mpr ⟨List.forall_mem_append.mpr ⟨front.spelled, spelledBetween⟩, back.spelled⟩
  · obtain rfl | rfl | rfl := separator <;>
      simp [List.isChain_append, front.fits, back.fits, ends, begins', List.isChain_cons]
  · exact List.forall_mem_append.mpr ⟨List.forall_mem_append.mpr ⟨front.even, evenBetween⟩, back.even⟩
  · exact ⟨head, by simp [begins]⟩
  · exact ⟨last', by simp [ends']⟩

theorem listed {rest : List (List Part)} (front : IsPhrase first) (separator : IsSeparator between)
    (each : ∀ parts ∈ rest, IsPhrase parts) : IsPhrase (first ++ rest.flatMap (between ++ ·)) := by
  induction rest generalizing first with
  | nil => simpa using front
  | cons next rest ih =>
    have longer := ih (front.append separator (each next List.mem_cons_self)) fun parts later =>
      each parts (List.mem_cons_of_mem _ later)
    simpa using longer

theorem balanced {parts : List Part} (even : ∀ part ∈ parts, part.StandsIn 0 ∧ part.behind 0 = 0) :
    Balanced 0 parts := by
  induction parts with
  | nil => rfl
  | cons part rest ih =>
    obtain ⟨stands, closed⟩ := even part List.mem_cons_self
    rw [Balanced, closed]
    exact ⟨stands, Nat.zero_le _, ih fun other later => even other (List.mem_cons_of_mem _ later)⟩

theorem isLine (phrase : IsPhrase first) : IsLine first where
  spelled := phrase.spelled
  fits := phrase.fits
  balanced := balanced phrase.even
  begins := by
    obtain ⟨head, begins⟩ := phrase.begins
    rw [begins]
    rintro part ⟨rfl⟩
    simp
  isSome := by
    obtain ⟨head, begins⟩ := phrase.begins
    rintro rfl
    cases begins

end IsPhrase

theorem isPhrase_dottedParts {name : String} (dotted : Settings.isDottedName name.toList = true) :
    IsPhrase (dottedParts name) := by
  have named : ∀ part ∈ Text.pieces '.' name, IsPhrase [word part] := by
    intro part member
    obtain ⟨piece, listed, rfl⟩ := List.mem_map.mp member
    exact .word (by rw [String.toList_ofList]; exact List.all_eq_true.mp dotted piece listed)
  unfold dottedParts
  cases shape : Text.pieces '.' name with
  | nil => exact absurd (List.map_eq_nil_iff.mp shape) (Text.splitAt_ne_nil '.' name.toList)
  | cons first others =>
    rw [shape] at named
    have each : ∀ parts ∈ others.map fun part => [word part], IsPhrase parts :=
      List.forall_mem_map.mpr fun part later => named part (List.mem_cons_of_mem _ later)
    have whole := (named first List.mem_cons_self).listed (.inr (.inl rfl)) each
    simpa [List.flatMap_map] using whole

namespace Import.Spelled

variable {item : Import}

theorem entryParts (spelled : item.Spelled) : ∀ entry ∈ item.entries, IsPhrase (Import.entryParts entry) := by
  intro entry member
  have named := IsPhrase.word (spelled.names entry member)
  unfold Import.entryParts
  cases bound? : entry.alias? with
  | none => exact named
  | some bound =>
    have asWord : IsPhrase [word "as"] := .word (by decide)
    have known := IsPhrase.word (spelled.aliases entry member bound bound?)
    exact (named.append (.inl rfl) asWord).append (.inl rfl) known

theorem isLine (spelled : item.Spelled) : IsLine item.parts := by
  have fromWord : IsPhrase [word "from"] := .word (by decide)
  have importWord : IsPhrase [word "import"] := .word (by decide)
  have front := ((fromWord.append (.inl rfl) (isPhrase_dottedParts spelled.source)).append (.inl rfl) importWord)
  unfold Import.parts
  cases shape : item.entries with
  | nil => exact absurd shape spelled.isSome
  | cons first others =>
    have phrases := spelled.entryParts
    rw [shape] at phrases
    have each : ∀ parts ∈ others.map Import.entryParts, IsPhrase parts :=
      List.forall_mem_map.mpr fun entry later => phrases entry (List.mem_cons_of_mem _ later)
    have entries := (phrases first List.mem_cons_self).listed (.inr (.inr rfl)) each
    have whole := (front.append (.inl rfl) entries).isLine
    simpa [List.flatMap_map] using whole

end Import.Spelled

end SelectionGen.Target
