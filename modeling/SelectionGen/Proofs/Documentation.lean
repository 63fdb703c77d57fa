import SelectionGen.Evaluation.Defining
import SelectionGen.Proofs.ImportedPackages

/-! What generated classes document. A description is written as one literal: it ends with its own quotes and at none
before them, and its value is the description, with line feeds as line ends and a blank behind a final quote. Code that
is that literal alone is read as one statement, and in the modules of a run each class begins with the literal of what
its type is described as. -/
namespace SelectionGen

namespace Target

open Grammar

/-- Where a literal in triple quotes is closed does not depend on what stands behind it. -/
theorem Literal.body_append {front content : List Char} {width : Nat} (back : List Char)
    (closed : body '"' true front = some (content, width)) :
    body '"' true (front ++ back) = some (content, width) ∧ width ≤ front.length := by
  fun_induction body '"' true front generalizing content width with
  | case1 => cases closed
  | case2 c single => exact absurd single.2 (by decide)
  | case3 => cases closed
  | case4 c rest ih =>
    obtain ⟨⟨inside, behind⟩, read, same⟩ := Option.bind_eq_some_iff.mp closed
    cases same
    obtain ⟨stays, within⟩ := ih read
    refine ⟨?_, by simpa using within⟩
    rw [List.cons_append, List.cons_append, body, stays]
    rfl
  | case5 c d rest _ single => exact absurd single.2 (by decide)
  | case6 c d rest notSlash _ closes =>
    cases closed
    obtain ⟨rfl, _, rfl, next⟩ := closes
    obtain ⟨others, rfl⟩ := List.head?_eq_some_iff.mp next
    simp [body]
  | case7 c d rest _ _ _ ends => exact absurd ends.2 (by decide)
  | case8 c d rest notSlash _ opens _ ih =>
    obtain ⟨⟨inside, behind⟩, read, same⟩ := Option.bind_eq_some_iff.mp closed
    cases same
    obtain ⟨stays, within⟩ := ih read
    -- A single character closes nothing, so that the character behind the two is the same one as before.
    obtain ⟨e, others, rfl⟩ : ∃ e others, rest = e :: others := by
      cases rest with
      | nil => simp [body] at read
      | cons e others => exact ⟨e, others, rfl⟩
    refine ⟨?_, by simpa using within⟩
    rw [List.cons_append, List.cons_append, body.eq_4 _ _ _ _ _ notSlash, if_neg (by simp),
      if_neg (by simpa using opens), if_neg (by simp), ← List.cons_append, stays]
    rfl

/-- A line that the text ends with ends there, and so do the blocks that are open. -/
theorem Scans.ended (levels : List Indentation) :
    Scans ⟨[], 0, levels, false⟩ (.lineEnd :: levels.map fun _ => .dedent) := by
  intro embed line
  refine ⟨⟨.lineEnd, line⟩ :: levels.map fun _ => ⟨.dedent, line⟩, ?_, by simp⟩
  rw [Spot.scan, Token.scan.eq_1]
  rfl

/-- The literal that a text is written as. -/
def documentationLiteral (text : String) : String := tripleQuote ++ docstringText text ++ tripleQuote

section Literals

variable (text : String)

theorem documentationLiteral_toList : (documentationLiteral text).toList = (Part.documentation text).text := by
  simp [documentationLiteral, tripleQuote, docstringText, Part.text]

/-- What is between the opening quotes and the end of the literal, once line ends are line feeds. -/
theorem unifyLineEnds_closing : Text.unifyLineEnds (docstringText text ++ tripleQuote).toList
    = Docstring.escape (Text.unifyLineEnds text.toList) ++ ['"', '"', '"'] := by
  have plain : '\r' ∉ ['"', '"', '"'] := by decide
  have parts : (docstringText text ++ tripleQuote).toList = Docstring.escape text.toList ++ ['"', '"', '"'] := by
    simp [docstringText, tripleQuote]
  rw [parts, Text.unifyLineEnds_append_cons (by decide), Docstring.unifyLineEnds_escape,
    Text.unifyLineEnds_of_plain plain]

theorem unifyLineEnds_documentationLiteral : Text.unifyLineEnds (documentationLiteral text).toList
    = '"' :: '"' :: '"' :: (Docstring.escape (Text.unifyLineEnds text.toList) ++ ['"', '"', '"']) := by
  have parts : (documentationLiteral text).toList
      = ['"', '"', '"'] ++ (docstringText text ++ tripleQuote).toList := by
    simp [documentationLiteral, tripleQuote]
  rw [parts, Text.unifyLineEnds_append (by decide), unifyLineEnds_closing]
  rfl

/-- The value of the literal is the text as it reads, and what stands behind the literal is left over. -/
theorem read_documentationLiteral (rest : List Char) :
    Literal.read {} (Text.unifyLineEnds ((documentationLiteral text).toList ++ rest))
      = some ((Docstring.asRead text).toList, (Text.unifyLineEnds (documentationLiteral text).toList).length) := by
  have together := Text.unifyLineEnds_concat_append (c := '"') (by decide) (by decide)
    ('"' :: '"' :: '"' :: (Docstring.escape text.toList ++ ['"', '"'])) rest
  have ends : (documentationLiteral text).toList
      = '"' :: '"' :: '"' :: (Docstring.escape text.toList ++ ['"', '"']) ++ ['"'] := by
    simp [documentationLiteral_toList, Part.text]
  rw [← ends] at together
  rw [together, unifyLineEnds_documentationLiteral]
  have read := Docstring.read_escape (Text.unifyLineEnds text.toList) (Text.unifyLineEnds rest)
  simpa [Docstring.asRead] using read

/-- No quotes in front of the last three close the literal. -/
theorem not_closed_before {front back : List Char}
    (parts : Text.unifyLineEnds (docstringText text ++ tripleQuote).toList = front ++ back) (isSome : back ≠ []) :
    Literal.body '"' true front = none := by
  rw [unifyLineEnds_closing] at parts
  refine Option.eq_none_iff_forall_ne_some.mpr fun found closed => ?_
  obtain ⟨stays, within⟩ := Literal.body_append back closed
  have whole := Docstring.body_escape (Text.unifyLineEnds text.toList) []
  rw [parts, stays, Option.some.injEq, Prod.mk.injEq] at whole
  have sizes := congrArg List.length parts
  have someBehind := List.length_pos_of_ne_nil isSome
  simp only [List.length_append, List.length_cons, List.length_nil] at sizes
  omega

/-- A text without null characters makes a literal that is code by itself. -/
theorem readCode_documentationLiteral (noNull : '\x00' ∉ text.toList) :
    ∃ line, readCode (documentationLiteral text)
      = .ok [⟨line, .expression ⟨line, .constant (.text (Docstring.asRead text))⟩⟩] := by
  have spelled : (Part.documentation text).Spelled := noNull
  have part : Leads ⟨Text.unifyLineEnds (documentationLiteral text).toList, 0, [], false⟩
      (Part.documentation text).kinds ⟨[], 0, [], false⟩ := by
    have leads : Leads ⟨_ ++ [], 0, [], false⟩ _ _ := Part.leads spelled trivial trivial (Nat.zero_le _)
    rwa [List.append_nil, ← documentationLiteral_toList] at leads
  have begins : Leads ⟨Text.unifyLineEnds (documentationLiteral text).toList, 0, [], true⟩ []
      ⟨Text.unifyLineEnds (documentationLiteral text).toList, 0, [], false⟩ := by
    rw [unifyLineEnds_documentationLiteral]
    have visible : IsVisible '"' := ⟨by decide, by decide, by decide, by decide⟩
    have lineStart (rest : List Char) :
        Leads ⟨List.replicate 0 ' ' ++ '"' :: rest, 0, [], true⟩ [] ⟨'"' :: rest, 0, [], false⟩ :=
      Leads.lineStart visible rfl
    exact lineStart _
  have spells : Spells [(lineKinds [.documentation text], (documenting (Docstring.asRead text)).Fits)]
      (documentationLiteral text) :=
    ⟨documentationLiteral_toList text ▸ Part.null_not_mem spelled, begins.scans (part.scans (.ended []))⟩
  obtain ⟨code, read, meant⟩ := spells.readCode
    (by simpa using ⟨0, by simp [lineKinds], takes_documenting text⟩)
    (by simpa using (reaches_documenting _).mono (by decide))
  cases meant with
  | cons here nothing =>
    cases nothing
    obtain ⟨lines, rfl⟩ := here
    exact ⟨lines 0, read⟩

end Literals

/-! Classes and what they document. -/

open Evaluation (documentationOf)

/-- What a class with this description documents: nothing if there is no description, or an empty one. -/
def documented (description : Option String) : Value :=
  match description with
  | none => .nothing
  | some text => if text = "" then .nothing else .text (Docstring.asRead text)

/-- A statement that defines the class of a projection, documented as the projection is described. -/
def DefinesDocumented (projection : Projection) (statement : Statement) : Prop :=
  ∃ line bases decorators body, statement = ⟨line, .type projection.name bases [] decorators body⟩ ∧
    documentationOf body = documented projection.description

/-- A statement that defines no class. -/
def DefinesNoClass (statement : Statement) : Prop :=
  ∀ name bases keywords decorators body, statement.form ≠ .type name bases keywords decorators body

theorem Method.documents_nothing {owner : String} {method : Method} {statement : Statement}
    (means : method.Means owner statement) (rest : List Statement) :
    documentationOf (statement :: rest) = .nothing := by
  obtain ⟨lines, body, rfl, _⟩ := means
  unfold Method.function
  cases method.body <;> rfl

/-- The body of a class begins with what the class is described as, or documents nothing. -/
theorem ClassDeclaration.documents {declaration : ClassDeclaration} {body : List Statement}
    (meant : Meant declaration.meanings body) :
    documentationOf body = (declaration.description.map fun text => .text (Docstring.asRead text)).getD .nothing := by
  unfold ClassDeclaration.meanings at meant
  cases described : declaration.description with
  | some text =>
    simp only [described, Option.isNone_some, Bool.false_and, Bool.false_eq_true, if_false, documentationMeanings,
      List.singleton_append] at meant
    obtain ⟨_, rest, ⟨lines, rfl⟩, _, rfl⟩ := List.forall₂_cons_left_iff.mp meant
    rfl
  | none =>
    cases methods : declaration.methods with
    | nil =>
      simp only [described, methods, Option.isNone_none, List.isEmpty_nil, Bool.and_self, if_true,
        List.singleton_append, List.map_nil] at meant
      obtain ⟨_, rest, ⟨lines, rfl⟩, _, rfl⟩ := List.forall₂_cons_left_iff.mp meant
      rfl
    | cons method others =>
      simp only [described, methods, Option.isNone_none, List.isEmpty_cons, Bool.and_false, Bool.false_eq_true,
        if_false, documentationMeanings, List.nil_append, List.map_cons] at meant
      obtain ⟨_, rest, means, _, rfl⟩ := List.forall₂_cons_left_iff.mp meant
      exact Method.documents_nothing means rest

theorem ModuleSource.definesDocumented {source : ModuleSource} {projection : Projection} {statement : Statement}
    (means : (source.classDeclaration projection).Means statement) : DefinesDocumented projection statement := by
  obtain ⟨line, base, decorators, body, rfl, _, _, meant⟩ := means
  refine ⟨line, [base], decorators, body, rfl, ?_⟩
  rw [ClassDeclaration.documents meant, ModuleSource.classDeclaration, ModuleSource.documentation]
  cases projection.description with
  | none => rfl
  | some text =>
    by_cases empty : text = ""
    · simp [documented, empty, Option.filter]
    · simp [documented, empty, Option.filter]

theorem Module.opening_definesNoClass {title : String} {imports : List Import} :
    ∀ item ∈ Module.opening title imports, ∀ statement, item.2 statement → DefinesNoClass statement := by
  refine List.forall_mem_cons.mpr ⟨?_, List.forall_mem_map.mpr fun item _ => ?_⟩
  · rintro _ ⟨lines, rfl⟩ name bases keywords decorators body form
    cases form
  · rintro _ ⟨line, names, rfl, _⟩ name bases keywords decorators body form
    cases form

/-- The code of a module: what stands in front of its classes, and a class for each of its projections. -/
theorem ModuleSource.classes_of_meant {source : ModuleSource} {code : Code}
    (meant : Meant source.toModule.meanings code) : ∃ opening classes, code = opening ++ classes ∧
      (∀ statement ∈ opening, DefinesNoClass statement) ∧
      List.Forall₂ DefinesDocumented source.projections classes := by
  let front := Module.opening source.title source.imports
  let declared : List Meaning := source.toModule.classes.map fun declaration =>
    (declaration.tokenKinds, declaration.Means)
  have whole : Meant (front ++ declared) code := meant
  have before : Meant front (code.take front.length) := by
    simpa using List.forall₂_take front.length whole
  have behind : Meant declared (code.drop front.length) := by
    simpa using List.forall₂_drop front.length whole
  refine ⟨code.take front.length, code.drop front.length, (List.take_append_drop _ _).symm, fun statement member => ?_,
    ?_⟩
  · obtain ⟨item, listed, means⟩ := exists_left_of_mem before member
    exact Module.opening_definesNoClass item listed statement means
  · have each := List.forall₂_map_left_iff.mp (List.forall₂_map_left_iff.mp behind)
    exact each.imp fun projection statement means => ModuleSource.definesDocumented means

end Target

open Target

/-- **Documentation is exact.** Whatever a text holds, the literal that documents it is closed by its last three quotes,
whatever stands behind them, and by no quotes before them. Its value is the text with line feeds as line ends and a
blank behind a final quote. Without null characters the literal is code that is read as this value. In the files of a
run each module has one class for each of its projections, and each class documents what its type is described as. -/
theorem Generation.documentation_exact :
    (∀ text rest, Literal.read {} (Text.unifyLineEnds ((documentationLiteral text).toList ++ rest))
      = some ((Docstring.asRead text).toList, (Text.unifyLineEnds (documentationLiteral text).toList).length)) ∧
    (∀ text front back, Text.unifyLineEnds (docstringText text ++ tripleQuote).toList = front ++ back → back ≠ [] →
      Literal.body '"' true front = none) ∧
    (∀ text, (Docstring.asRead text).toList
      = Text.unifyLineEnds text.toList ++ if text.toList.getLast? = some '"' then [' '] else []) ∧
    (∀ text, '\x00' ∉ text.toList → ∃ line, readCode (documentationLiteral text)
      = .ok [⟨line, .expression ⟨line, .constant (.text (Docstring.asRead text))⟩⟩]) ∧
    ∀ (settings : Settings) (filters : List Schema.TypeFilter) (load : Unit → Schema.Loading) (api : Api)
        (files : Files),
      (run settings filters load).outcome = .ok api → render settings [] [] api = .ok files →
      (∀ projection ∈ api.projections, ∃ source ∈ moduleSources api settings, projection ∈ source.projections) ∧
      ∀ source ∈ moduleSources api settings, ∃ opening classes, (source.path, source.text) ∈ files ∧
        readCode source.text = .ok (opening ++ classes) ∧ (∀ statement ∈ opening, DefinesNoClass statement) ∧
        List.Forall₂ DefinesDocumented source.projections classes := by
  refine ⟨read_documentationLiteral, not_closed_before, fun text => ?_, readCode_documentationLiteral, ?_⟩
  · rw [Docstring.asRead, String.toList_ofList, Docstring.padded]
    simp only [Text.endsWithQuote_unifyLineEnds]
    split_ifs
    · rfl
    · rw [List.append_nil]
  · intro settings filters load api files done rendered
    refine ⟨fun projection member => exists_source member, fun source member => ?_⟩
    obtain ⟨areFiles, reads⟩ := files_of_render done rendered
    obtain ⟨code, read, meant⟩ := reads _ _ (.module member)
    obtain ⟨opening, classes, rfl, noClasses, each⟩ := ModuleSource.classes_of_meant meant
    exact ⟨opening, classes, (areFiles _).mpr ⟨_, .module member⟩, read, noClasses, each⟩

/-! The schema whose documentation tries to get out of its literals. -/
namespace Projection.Reserved

theorem rendered : ∃ files, render {} [] [] api = .ok files := by
  have packages : ∀ package ∈ [({} : Settings).packageName, ({} : Settings).clientPart], IsImportable package.text := by
    decide
  have unique : checkUnique [] (moduleSources api {}) = .ok () := by decide
  have noHeaders : ∀ header ∈ ([] : List String), IsHeader header := by simp
  exact ⟨_, render_of_readCode unique (Generation.layOut_reads generated packages documentable noHeaders)⟩

/-- The description stays in its literal, with a blank behind the quotes that it ends with. -/
theorem none_documented :
    ∃ files path text code statement, (Generation.run {} [] fun _ => ⟨.ok schema, "", []⟩).outcome = .ok api ∧
      render {} [] [] api = .ok files ∧ (path, text) ∈ files ∧ readCode text = .ok code ∧ statement ∈ code ∧
      DefinesDocumented (context.projection none) statement ∧
      documented (context.projection none).description
        = .text "\"\"\"\n    def stolen(self): pass\n    \"\"\" " := by
  obtain ⟨files, written⟩ := rendered
  obtain ⟨defined, modules⟩ := Generation.documentation_exact.2.2.2.2 {} [] _ api files generated written
  obtain ⟨source, member, inSource⟩ := defined (context.projection none) (by simp [Api.projections, api])
  obtain ⟨opening, classes, inFiles, read, _, each⟩ := modules source member
  obtain ⟨statement, listed, documents⟩ := exists_left_of_mem each.flip inSource
  have text : Docstring.asRead "\"\"\"\n    def stolen(self): pass\n    \"\"\""
      = "\"\"\"\n    def stolen(self): pass\n    \"\"\" " := by decide
  exact ⟨files, _, _, _, statement, generated, written, inFiles, read, List.mem_append_right _ listed, documents,
    congrArg Value.text text⟩

end Projection.Reserved

end SelectionGen
