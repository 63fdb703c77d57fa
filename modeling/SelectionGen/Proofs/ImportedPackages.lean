import SelectionGen.Proofs.PackageNames
import SelectionGen.Proofs.Rendering

/-! Packages that a written module imports from. The settings let a package through whose name has a word in it that the
language keeps for itself, or a line end behind it. No module can be imported from there: what stands in the import is
no statement, and the module that it stands in cannot be read. So wherever all files of a run are code, the packages
that they import from can be imported from, and what they document can be written. -/
namespace SelectionGen

/-- The first item of a list with a property, and what stands in front of it. -/
theorem exists_first {α : Type} {p : α → Prop} [DecidablePred p] {items : List α} (found : ∃ item ∈ items, p item) :
    ∃ before item behind, items = before ++ item :: behind ∧ (∀ other ∈ before, ¬ p other) ∧ p item := by
  have isSome : (items.find? fun item => decide (p item)).isSome = true := by simpa [List.find?_isSome] using found
  obtain ⟨item, first⟩ := Option.isSome_iff_exists.mp isSome
  obtain ⟨holds, before, behind, whole, others⟩ := List.find?_eq_some_iff_append.mp first
  exact ⟨before, item, behind, whole, by simpa using others, by simpa using holds⟩

namespace Target

namespace Grammar

section Refusals

variable {kinds rest : List TokenKind} {lines : Nat → Nat}

/-- Wherever they stand and whatever is behind them, no statement begins with tokens of these kinds. -/
def Refuses (kinds : List TokenKind) : Prop :=
  ∀ (within : List Token) (lines : Nat → Nat) (rest : List TokenKind),
    statementsWithin within (numbered lines (kinds ++ rest)) = none

/-- Where no statement begins, code goes no further. -/
theorem codeOf_of_refuses {items : List Meaning} (isSome : kinds ≠ []) (refuses : Refuses kinds)
    (takes : ∀ item ∈ items, ∃ depth < item.1.length, Takes depth item.1 item.2) (rest : List TokenKind)
    (lines : Nat → Nat) : codeOf (numbered lines (items.flatMap Prod.fst ++ (kinds ++ rest))) = none := by
  have stuck : ∀ (bound tokens : List Token), tokens ≠ [] → statementsWithin tokens tokens = none →
      codeWithin bound tokens = none := by
    intro bound tokens more refused
    obtain ⟨token, tokens, rfl⟩ := List.exists_cons_of_ne_nil more
    cases bound with
    | nil => rfl
    | cons _ bound => rw [codeWithin.eq_3 _ _ _ (List.cons_ne_nil _ _), refused]; rfl
  have within : ∀ (bound : List Token) (lines : Nat → Nat),
      codeWithin bound (numbered lines (items.flatMap Prod.fst ++ (kinds ++ rest))) = none := by
    induction items with
    | nil =>
      intro bound lines
      refine stuck bound _ ?_ (refuses _ lines rest)
      obtain ⟨kind, kinds, rfl⟩ := List.exists_cons_of_ne_nil isSome
      exact List.cons_ne_nil _ _
    | cons item items ih =>
      intro bound lines
      obtain ⟨depth, width, takesHere⟩ := takes item List.mem_cons_self
      rw [List.flatMap_cons, List.append_assoc]
      obtain ⟨token, tokens, shape⟩ : ∃ token tokens,
          numbered lines (item.1 ++ (items.flatMap Prod.fst ++ (kinds ++ rest))) = token :: tokens := by
        refine List.exists_cons_of_length_pos ?_
        rw [length_numbered, List.length_append]
        omega
      obtain ⟨statement, further, taken, _⟩ := takesHere (token :: tokens) lines
        (items.flatMap Prod.fst ++ (kinds ++ rest)) (by
          rw [← shape, length_numbered, List.length_append]
          omega)
      rw [shape] at taken ⊢
      cases bound with
      | nil => rfl
      | cons _ bound =>
        have later := ih (fun other member => takes other (List.mem_cons_of_mem _ member)) bound further
        rw [codeWithin.eq_3 _ _ _ (List.cons_ne_nil _ _), taken]
        simp [later]
  exact within _ lines

theorem identifier_of_keyword {name : String} (keyword : name ∈ Projection.keywords) (line : Nat)
    (rest : List Token) : identifier (⟨.name name, line⟩ :: rest) = none := by
  rw [identifier, if_pos (by simpa using keyword)]

/-- Nothing is imported from a module with a word in its name that the language keeps for itself, nor from one whose
name is the last thing on its line. -/
theorem importFrom_refused {source : String}
    (refused : (∃ part ∈ Text.pieces '.' source, part ∈ Projection.keywords) ∨ ∃ more, rest = .lineEnd :: more) :
    importFrom (numbered lines ((dottedParts source).flatMap Part.kinds ++ rest)) = none := by
  -- Whatever is read as the name of the module has no import behind it.
  have stops {name found : String} {kinds behind : List TokenKind} {further : Nat → Nat}
      (read : moduleName (numbered lines (.name name :: kinds)) = some (found, numbered further behind))
      (noImport : word "import" (numbered further behind) = none) :
      importFrom (numbered lines (.name name :: kinds)) = none := by
    have undotted : repeatedly dots (numbered lines (.name name :: kinds))
        = ([], numbered lines (.name name :: kinds)) := rfl
    simp only [importFrom, undotted, perhaps, read, noImport]
    rfl
  obtain ⟨first, others, pieces⟩ := List.exists_cons_of_ne_nil (Text.pieces_ne_nil '.' source)
  by_cases reserved : ∃ part ∈ Text.pieces '.' source, part ∈ Projection.keywords
  · obtain ⟨good, keyword, behind, split, plain, isKeyword⟩ := exists_first reserved
    rw [Import.dottedParts_kinds pieces, List.cons_append]
    rw [pieces] at split
    cases good with
    | nil =>
      obtain ⟨rfl, rfl⟩ := List.cons.inj split
      have unread : moduleName (numbered lines (.name first ::
          (others.flatMap (fun part => [.mark ".", .name part]) ++ rest))) = none := by
        simp only [moduleName, dottedNames, numbered, identifier_of_keyword isKeyword]
        rfl
      have undotted {kinds : List TokenKind} : repeatedly dots (numbered lines (.name first :: kinds))
          = ([], numbered lines (.name first :: kinds)) := rfl
      simp only [importFrom, undotted, perhaps, unread]
      rfl
    | cons name good =>
      obtain ⟨rfl, rfl⟩ := List.cons.inj (split.trans (List.cons_append ..))
      let more := .name keyword :: (behind.flatMap (fun part => [.mark ".", .name part]) ++ rest)
      have ends (lines : Nat → Nat) : (mark "." (numbered lines (.mark "." :: more))).bind identifier = none :=
        identifier_of_keyword isKeyword (lines 1) (numbered _ _)
      obtain ⟨further, names⟩ := Import.dottedNames_numbered plain ends lines
      have read := congrArg (Option.map fun found => (".".intercalate found.1, found.2)) names
      rw [List.flatMap_append, List.append_assoc]
      exact stops read rfl
  · have plain : ∀ part ∈ Text.pieces '.' source, part ∉ Projection.keywords :=
      fun part member keyword => reserved ⟨part, member, keyword⟩
    obtain ⟨more, rfl⟩ := refused.resolve_left reserved
    have ends (lines : Nat → Nat) : (mark "." (numbered lines (.lineEnd :: more))).bind identifier = none := rfl
    obtain ⟨further, read⟩ := Import.moduleName_numbered plain ends lines
    rw [Import.dottedParts_kinds pieces] at read ⊢
    exact stops read rfl

/-- A line that is to import from such a module is no statement. -/
theorem refuses_of_importFrom (refused : ∀ lines rest, importFrom (numbered lines (kinds ++ rest)) = none) :
    Refuses (.name "from" :: kinds) := by
  intro within lines rest
  cases within with
  | nil => rfl
  | cons token within =>
    have form : simpleForm (numbered lines (.name "from" :: (kinds ++ rest))) = none :=
      refused (fun place => lines (place + 1)) rest
    have line : simpleLine (numbered lines (.name "from" :: (kinds ++ rest))) = none := by
      simp only [simpleLine, numbered, simpleLineWithin, simpleStatement]
      rw [numbered] at form
      rw [form]
      rfl
    exact line

end Refusals

end Grammar

open Grammar

section Lines

variable {lines : List (List Part)} {rest : List Char}

/-- Lines that do not stand in lead from the start of one line to the start of another one. -/
theorem Leads.unindented (areLines : ∀ parts ∈ lines, IsLine parts) :
    Leads ⟨Text.unifyLineEnds ((lines.map (Row.line 0)).flatMap Row.text ++ rest), 0, [], true⟩
      (lines.flatMap lineKinds) ⟨Text.unifyLineEnds rest, 0, [], true⟩ := by
  induction lines with
  | nil => exact .refl _
  | cons parts lines ih =>
    have stays : Indentation.arrange ⟨0, 0⟩ [] = some ([], []) := rfl
    have later := ih fun other member => areLines other (List.mem_cons_of_mem _ member)
    have here := (areLines parts List.mem_cons_self).leads stays ((lines.map (Row.line 0)).flatMap Row.text ++ rest)
    rw [List.map_cons, List.flatMap_cons, List.append_assoc, List.flatMap_cons]
    exact here.trans later

/-- A text that begins with statements and then with what is none is no code. -/
theorem unread_of_leads {items : List Meaning} {kinds : List TokenKind} {text : String} {there : Spot}
    (leads : Leads ⟨Text.unifyLineEnds text.toList, 0, [], true⟩ (items.flatMap Prod.fst ++ kinds) there)
    (takes : ∀ item ∈ items, ∃ depth < item.1.length, Takes depth item.1 item.2) (isSome : kinds ≠ [])
    (refuses : Refuses kinds) : (Token.ofText text.toList).bind codeOf = none := by
  cases cut : Token.ofText text.toList with
  | none => rfl
  | some tokens =>
    obtain ⟨more, whole⟩ := leads.isPrefix cut
    obtain ⟨lines, numbering⟩ := exists_numbered tokens
    rw [← whole, List.append_assoc] at numbering
    rw [Option.bind_some, numbering]
    exact codeOf_of_refuses isSome refuses takes more lines

/-- Headers are skipped. -/
theorem Leads.headers {headers : List String} (areHeaders : ∀ header ∈ headers, IsHeader header) (text : String) :
    Leads ⟨Text.unifyLineEnds (withHeaders headers text).toList, 0, [], true⟩ []
      ⟨Text.unifyLineEnds text.toList, 0, [], true⟩ := by
  induction headers generalizing text with
  | nil => exact .refl _
  | cons header headers ih =>
    have inFront := ih (fun other member => areHeaders other (List.mem_cons_of_mem _ member)) (withHeader text header)
    exact inFront.trans ((areHeaders header List.mem_cons_self).leads text)

/-- What is read holds no null character. -/
theorem null_not_mem_of_readCode {text : String} {code : Code} (read : readCode text = .ok code) :
    '\x00' ∉ text.toList := by
  intro member
  rw [readCode, if_pos (by simpa using member)] at read
  cases read

end Lines

end Target

namespace Settings

/-- The module of the client's classes is called by a dotted name, unless there is a line end in it behind one. -/
theorem clientModule_dotted_or_broken (settings : Settings) :
    isDottedName (settings.clientPackage ++ "." ++ Target.projectionsModule).toList = true ∨
      ∃ front rest, (settings.clientPackage ++ "." ++ Target.projectionsModule).toList = front ++ '\n' :: rest ∧
        isDottedName front = true := by
  have whole : (settings.clientPackage ++ "." ++ Target.projectionsModule).toList
      = settings.packageName.text.toList ++ '.' :: (settings.clientPart.text.toList
        ++ '.' :: Target.projectionsModule.toList) := by
    simp [clientPackage]
  have module : isDottedName Target.projectionsModule.toList = true := by decide
  rw [whole]
  rcases settings.packageName.dotted_or_broken with dotted | ⟨front, same, dotted⟩
  · rcases settings.clientPart.dotted_or_broken with alsoDotted | ⟨back, same, alsoDotted⟩
    · left
      simp [isDottedName_append, dotted, alsoDotted, module]
    · refine .inr ⟨settings.packageName.text.toList ++ '.' :: back, '.' :: Target.projectionsModule.toList, ?_, ?_⟩
      · simp [same]
      · simp [isDottedName_append, dotted, alsoDotted]
  · refine .inr ⟨front, '.' :: (settings.clientPart.text.toList ++ '.' :: Target.projectionsModule.toList), ?_, dotted⟩
    simp [same]

end Settings

namespace Target

open Grammar

/-- An import from a module that cannot be imported from begins with a line that is no statement. -/
theorem Import.refused {item : Import} (spelled : Settings.isDottedName item.source.toList = true → item.Spelled)
    (source : Settings.isDottedName item.source.toList = true ∨
      ∃ front rest, item.source.toList = front ++ '\n' :: rest ∧ Settings.isDottedName front = true)
    (refused : ¬ IsImportable item.source) :
    ∃ parts rest, IsLine parts ∧ Refuses (lineKinds parts) ∧
      (Row.line 0 item.parts).text = (Row.line 0 parts).text ++ rest := by
  rcases source with dotted | ⟨front, rest, broken, dotted⟩
  · have reserved : ∃ part ∈ Text.pieces '.' item.source, part ∈ Projection.keywords := by
      by_contra plain
      push Not at plain
      exact refused ⟨dotted, plain⟩
    refine ⟨item.parts, [], (spelled dotted).isLine, ?_, (List.append_nil _).symm⟩
    obtain ⟨behind, parts⟩ : ∃ behind, item.parts = [.word "from", .blank] ++ dottedParts item.source ++ behind :=
      ⟨_, List.append_assoc ..⟩
    have kinds : lineKinds item.parts = .name "from" ::
        ((dottedParts item.source).flatMap Part.kinds ++ (behind.flatMap Part.kinds ++ [.lineEnd])) := by
      simp [lineKinds, parts, Part.kinds]
    rw [kinds]
    refine refuses_of_importFrom fun lines rest => ?_
    rw [List.append_assoc]
    exact importFrom_refused (.inl reserved)
  · have fromWord : IsPhrase [.word "from"] := .word (by decide)
    have named : IsPhrase (dottedParts (String.ofList front)) :=
      isPhrase_dottedParts (by rwa [String.toList_ofList])
    have kinds : lineKinds ([.word "from"] ++ [.blank] ++ dottedParts (String.ofList front))
        = .name "from" :: ((dottedParts (String.ofList front)).flatMap Part.kinds ++ [.lineEnd]) := by
      simp [lineKinds, Part.kinds]
    refine ⟨_, rest ++ (" import ".toList ++ (", ".intercalate (item.entries.map ImportEntry.render)).toList ++ ['\n']),
      (fromWord.append (.inl rfl) named).isLine, ?_, ?_⟩
    · rw [kinds]
      refine refuses_of_importFrom fun lines more => ?_
      rw [List.append_assoc]
      exact importFrom_refused (.inr ⟨_, rfl⟩)
    · rw [← item.render_toList, Import.render]
      simp [Row.text, broken, dottedParts_text, Part.text]

/-- The text of a module leads past the imports that are spelled correctly. -/
theorem Module.leads_imports {written : Module} {before behind : List Import} (title : IsDocumentable written.title)
    (plain : IsPlain written.title) (split : written.imports = before ++ behind)
    (spelled : ∀ item ∈ before, item.Spelled)
    (named : ∀ declaration ∈ written.classes, ∀ method ∈ declaration.methods,
      Sdl.isName method.fieldName.toList = true) :
    Leads ⟨Text.unifyLineEnds written.render.toList, 0, [], true⟩ ((opening written.title before).flatMap Prod.fst)
      ⟨Text.unifyLineEnds ((behind.map fun item => Row.line 0 item.parts).flatMap Row.text
        ++ (written.classes.flatMap ClassDeclaration.rows).flatMap Row.text), 0, [], true⟩ := by
  have stays : Indentation.arrange ⟨0, 0⟩ [] = some ([], []) := rfl
  have titled : IsDocumentable (written.title ++ notice) := by
    have noticed : '\x00' ∉ notice.toList := by decide
    rw [IsDocumentable, String.toList_append, List.mem_append, not_or]
    exact ⟨title, noticed⟩
  have areLines : ∀ parts ∈ before.map Import.parts, IsLine parts :=
    List.forall_mem_map.mpr fun item member => (spelled item member).isLine
  let rest := (behind.map fun item => Row.line 0 item.parts).flatMap Row.text
    ++ (written.classes.flatMap ClassDeclaration.rows).flatMap Row.text
  let imported := ((before.map Import.parts).map (Row.line 0)).flatMap Row.text ++ rest
  have text : written.render.toList = (Row.line 0 [.documentation (written.title ++ notice)]).text ++ (Row.blank.text
      ++ ((Row.line 0 typing.parts).text ++ (Row.blank.text ++ imported))) := by
    rw [render_toList plain named, rows, split]
    simp [imported, rest, Function.comp_def]
  have opens := ((isLine_documentation titled).leads stays _).trans ((Row.leads_blank _).trans
    ((typing_spelled.isLine.leads stays _).trans ((Row.leads_blank imported).trans (.unindented areLines))))
  rw [text]
  simpa [opening, lineKinds, List.flatMap_map, rest] using opens

end Target

namespace Api.Coherent

open Target

variable {settings : Settings} {api : Api} {source : ModuleSource} {code : Code}

/-- A module that imports from where one cannot is no code, whatever it documents and also behind headers. -/
theorem unread_of_not_importable {headers : List String} (coherent : api.Coherent settings)
    (member : source ∈ moduleSources api settings)
    (named : ∀ projection ∈ source.projections, projection.NamesAccessors)
    (others : ∃ item ∈ source.imports, ¬ IsImportable item.source)
    (areHeaders : ∀ header ∈ headers, IsHeader header) :
    (Token.ofText (withHeaders headers source.text).toList).bind Grammar.codeOf = none := by
  obtain ⟨before, item, behind, split, good, bad⟩ := exists_first others
  have inBefore : ∀ other ∈ before, other ∈ source.imports ∧ IsImportable other.source := fun other listed =>
    ⟨split ▸ List.mem_append_left _ listed, not_not.mp (good other listed)⟩
  have listed : item ∈ source.imports := split ▸ List.mem_append_right _ List.mem_cons_self
  have ofClient : item.source = settings.clientPackage ++ "." ++ projectionsModule := by
    rcases coherent.import_source member item listed with isSupport | ⟨ofClient, _⟩
    · exact absurd (isSupport ▸ isImportable_supportModule) bad
    · exact ofClient
  obtain ⟨parts, rest, isLine, refuses, text⟩ := Import.refused (coherent.import_spelled member listed)
    (ofClient ▸ settings.clientModule_dotted_or_broken) bad
  have titled := ModuleSource.titled_of_mem member
  have fieldsNamed := ModuleSource.fields_named named
  have leads := Module.leads_imports titled.1 titled.2
    (show source.toModule.imports = before ++ item :: behind from split)
    (fun other inside => coherent.import_spelled member (inBefore other inside).1 (inBefore other inside).2.dotted)
    fieldsNamed
  have stays : Indentation.arrange ⟨0, 0⟩ [] = some ([], []) := rfl
  rw [List.map_cons, List.flatMap_cons, text, List.append_assoc, List.append_assoc] at leads
  have whole := (Leads.headers areHeaders _).trans (leads.trans (isLine.leads stays _))
  have isSome : lineKinds parts ≠ [] := List.append_ne_nil_of_right_ne_nil _ (List.cons_ne_nil _ _)
  exact unread_of_leads whole (Module.takes_opening _ fun other inside =>
    coherent.import_plain member (inBefore other inside).1 (inBefore other inside).2) isSome refuses

/-- A module that is read imports only from where one can. -/
theorem importable_of_readCode (coherent : api.Coherent settings) (member : source ∈ moduleSources api settings)
    (named : ∀ projection ∈ api.projections, projection.NamesAccessors)
    (read : readCode source.text = .ok code) : ∀ item ∈ source.imports, IsImportable item.source := by
  by_contra others
  push Not at others
  have noHeaders : ∀ header ∈ ([] : List String), IsHeader header := by simp
  have unread := coherent.unread_of_not_importable member
    (fun projection inSource => named projection (mem_projections_of_source member inSource)) others noHeaders
  rw [withHeaders, List.foldl_nil] at unread
  rw [readCode, unread] at read
  split_ifs at read

end Api.Coherent

/-! What is documented stands in the text as it is, with more in front of some characters. -/

namespace Target

theorem Docstring.mem_escape {c : Char} {text : List Char} (member : c ∈ text) : c ∈ escape text := by
  have inQuotes : c ∈ escapeQuotes text := by
    fun_induction escapeQuotes text with
    | case1 => cases member
    | case2 rest ih | case3 rest ih | case4 d rest _ _ ih => simp only [List.mem_cons] at member ⊢; tauto
  unfold escape
  split_ifs
  · exact List.mem_append_left _ inQuotes
  · exact inQuotes

/-- A null character in what a row documents stands in its text. -/
theorem isDocumentable_of_row {rows : List Row} {width : Nat} {text : String}
    (row : Row.line width [.documentation text] ∈ rows) (noNull : '\x00' ∉ rows.flatMap Row.text) :
    IsDocumentable text := by
  intro member
  refine noNull (List.mem_flatMap.mpr ⟨_, row, ?_⟩)
  simp [Row.text, Part.text, Docstring.mem_escape member]

theorem ClassDeclaration.mem_rows_of_description {declaration : ClassDeclaration} {text : String}
    (described : text ∈ declaration.description) : Row.line 4 [.documentation text] ∈ declaration.rows := by
  have opens : [.documentation text] ∈ declaration.openingLines := by
    rw [Option.mem_def] at described
    simp [openingLines, described, documentationLines]
  simp [rows, opens]

theorem ClassDeclaration.mem_rows_of_method {declaration : ClassDeclaration} {method : Method} {text : String}
    (member : method ∈ declaration.methods) (described : text ∈ method.description) :
    Row.line 8 [.documentation text] ∈ declaration.rows := by
  have inMethod : Row.line 8 [.documentation text] ∈ method.rows declaration.name := by
    rw [Option.mem_def] at described
    simp [Method.rows, described, documentationLines]
  refine List.mem_append_right _ ?_
  unfold methodRows
  cases shape : declaration.methods with
  | nil => simp [shape] at member
  | cons first others =>
    rw [shape] at member
    rcases List.mem_cons.mp member with rfl | later
    · exact List.mem_append_left _ (List.mem_append_right _ inMethod)
    · exact List.mem_append_right _ (List.mem_flatMap.mpr ⟨method, later, List.mem_cons_of_mem _ inMethod⟩)

/-- The classes of a module whose text holds no null character document what can be written. -/
theorem ModuleSource.documentable_of_null_not_mem {source : ModuleSource} (plain : IsPlain source.title)
    (named : ∀ declaration ∈ source.toModule.classes, ∀ method ∈ declaration.methods,
      Sdl.isName method.fieldName.toList = true)
    (noNull : '\x00' ∉ source.text.toList) : ∀ projection ∈ source.projections, projection.Documentable := by
  intro projection member
  have declared : source.classDeclaration projection ∈ source.toModule.classes := List.mem_map_of_mem member
  rw [show source.text = source.toModule.render from rfl, Module.render_toList plain named] at noNull
  have inModule : ∀ row ∈ (source.classDeclaration projection).rows, row ∈ source.toModule.rows := fun row inClass =>
    List.mem_append_right _ (List.mem_flatMap.mpr ⟨_, declared, inClass⟩)
  -- An empty text is not written, but there is nothing in it.
  have kept {description : Option String} {text : String} (described : text ∈ description) :
      IsDocumentable text ∨ text ∈ documentation description := by
    by_cases empty : text = ""
    · exact .inl (empty ▸ by decide)
    · exact .inr (Option.mem_filter_iff.mpr ⟨described, by simpa using empty⟩)
  constructor
  · intro text described
    rcases kept described with documentable | documented
    · exact documentable
    · exact isDocumentable_of_row (inModule _ (ClassDeclaration.mem_rows_of_description documented)) noNull
  · intro accessor listed text described
    rcases kept described with documentable | documented
    · exact documentable
    · have method : source.method accessor ∈ (source.classDeclaration projection).methods := List.mem_map_of_mem listed
      exact isDocumentable_of_row (inModule _ (ClassDeclaration.mem_rows_of_method method documented)) noNull

end Target

/-! Where classes of the client are imported. -/

namespace Generation

open Target Sdl Schema Projection

variable {settings : Settings} {filters : List TypeFilter} {load : Unit → Loading} {api : Api}

/-- Where a run gives out classes of the client, the module of the entry point imports some. -/
theorem client_imported_of_run (done : (run settings filters load).outcome = .ok api)
    (isSome : api.clientProjections ≠ []) : ∃ source ∈ moduleSources api settings, ∃ item ∈ source.imports,
      item.source = settings.clientPackage ++ "." ++ projectionsModule := by
  rcases descent_of_run done with rfl | ⟨document, position, definition, given, final, _, _, descent, rfl⟩
  · exact absurd rfl isSome
  · let context : Context := ⟨settings, TypeFilter.applyAll filters document⟩
    have start {target : Target} (reached : context.Reached (context.rootTargets position definition) target) :
        ∃ next, next ∈ context.rootTargets position definition := by
      induction reached with
      | start member => exact ⟨_, member⟩
      | step _ _ ih => exact ih
    obtain ⟨target, inGiven⟩ := List.exists_mem_of_ne_nil _ (List.map_eq_nil_iff.not.mp isSome)
    obtain ⟨next, inRoot⟩ := start (descent.given_reached target inGiven)
    obtain ⟨resolved, inFields, leads⟩ := List.mem_filterMap.mp inRoot
    have kept : resolved ∈ (context.resolvedFields true position definition).filter fun resolved =>
        resolved.target?.isSome := List.mem_filter.mpr ⟨inFields, by rw [leads]; rfl⟩
    obtain ⟨accessor, inAccessors, composite⟩ := context.composite_of_field [] kept leads
    let source : ModuleSource := ⟨settings.queriesPackage, queriesModule, "Generated GraphQL root query projections.",
      [context.rootProjectionOf position definition]⟩
    have used : context.clientClass next.name ∈ source.usedClasses :=
      ModuleSource.mem_usedClasses.mpr ⟨_, List.mem_cons_self, accessor, inAccessors, composite⟩
    obtain ⟨entry, imported⟩ := @ModuleSource.exists_importOf source _ (modules_differ _ _)
    obtain ⟨item, listed, ofClient, _⟩ := ModuleSource.exists_import
      (ModuleSource.mem_importPairs.mpr (.inr ⟨_, used, imported, rfl⟩))
    exact ⟨source, List.mem_filter.mpr ⟨List.mem_cons_of_mem _ List.mem_cons_self, rfl⟩, item, listed, ofClient⟩

end Generation

/-! Files that are all written. -/

namespace Target

/-- The module that a class of the client is defined in. -/
theorem exists_client_source {settings : Settings} {api : Api} {projection : Projection}
    (member : projection ∈ api.clientProjections) : ∃ source ∈ moduleSources api settings,
      source.package = settings.clientPackage ∧ source.moduleName = projectionsModule ∧
        source.projections = api.clientProjections :=
  ⟨⟨settings.clientPackage, projectionsModule, _, api.clientProjections⟩,
    List.mem_filter.mpr ⟨List.mem_cons_self, by simpa using List.ne_nil_of_mem member⟩, rfl, rfl, rfl⟩

/-- Every class is defined in a module. -/
theorem exists_source {settings : Settings} {api : Api} {projection : Projection}
    (member : projection ∈ api.projections) :
    ∃ source ∈ moduleSources api settings, projection ∈ source.projections := by
  rcases List.mem_append.mp member with inQueries | inClient
  · exact ⟨⟨settings.queriesPackage, queriesModule, _, api.queryTypes⟩, List.mem_filter.mpr
      ⟨List.mem_cons_of_mem _ List.mem_cons_self, by simpa using List.ne_nil_of_mem inQueries⟩, inQueries⟩
  · obtain ⟨source, listed, _, _, same⟩ := @exists_client_source settings api projection inClient
    exact ⟨source, listed, same ▸ inClient⟩

section Arranged

variable {settings : Settings} {headers : List String} {templates files modules : Files} {api : Api} {ε : Type}
  {fill : TemplateRule ε}

/-- Once the modules are written, all that can be wrong is a file that is no code. -/
theorem render_of_moduleFiles (made : moduleFiles templates fill [] (moduleSources api settings) = .ok modules) :
    render settings headers templates api ε fill
      = (arrange modules (moduleSources api settings)).mapM (finish headers) := by
  rw [render, made]
  rfl

/-- Files that are given out are those that the modules are arranged in, behind headers, and all of them read as
code. -/
theorem arranged_of_render (rendered : render settings headers templates api ε fill = .ok files) :
    ∃ modules, moduleFiles templates fill [] (moduleSources api settings) = .ok modules ∧
      files = (arrange modules (moduleSources api settings)).map (fun file => (file.1, withHeaders headers file.2)) ∧
      ∀ file ∈ files, ∃ code, readCode file.2 = .ok code := by
  cases made : moduleFiles templates fill [] (moduleSources api settings) with
  | error error =>
    rw [render, made] at rendered
    cases rendered
  | ok modules =>
    rw [render_of_moduleFiles made] at rendered
    have each := each_of_mapM rendered
    refine ⟨modules, rfl, ?_, fun result member => ?_⟩
    · rw [← List.forall₂_eq_eq_eq, List.forall₂_map_right_iff]
      exact each.flip.imp fun _ _ done => (finish_eq_ok_iff.mp done).2.symm
    · obtain ⟨_, _, done⟩ := exists_left_of_mem each member
      obtain ⟨read, rfl⟩ := finish_eq_ok_iff.mp done
      exact read

end Arranged

/-- Without templates and headers they are the modules as they are laid out. -/
theorem layOut_of_render {settings : Settings} {api : Api} {files : Files}
    (rendered : render settings [] [] api = .ok files) :
    layOut (moduleSources api settings) = files ∧ ∀ file ∈ files, ∃ code, readCode file.2 = .ok code := by
  obtain ⟨modules, made, rfl, reads⟩ := arranged_of_render rendered
  rw [moduleFiles_declared] at made
  cases unique : checkUnique [] (moduleSources api settings) with
  | error error => rw [unique] at made; cases made
  | ok _ =>
    rw [unique] at made
    obtain rfl := Except.ok.inj made
    exact ⟨(List.map_id _).symm, reads⟩

end Target

namespace Generation

open Target Grammar Schema

variable {settings : Settings} {filters : List TypeFilter} {load : Unit → Loading} {api : Api} {files : Files}

/-- The files that a run is written to are those of its modules, and each is read as what stands in it. Nothing needs to
be known about the packages and the schema for that: what cannot be imported or documented is not written. -/
theorem files_of_render (done : (run settings filters load).outcome = .ok api)
    (rendered : render settings [] [] api = .ok files) :
    (∀ file, file ∈ files ↔ ∃ items, IsFile (moduleSources api settings) file items) ∧
      ∀ file items, IsFile (moduleSources api settings) file items →
        ∃ code, readCode file.2 = .ok code ∧ Meant items code := by
  have coherent := coherent_of_run done
  have named := accessors_named_of_run done
  obtain ⟨rfl, reads⟩ := layOut_of_render rendered
  have moduleReads : ∀ source ∈ moduleSources api settings, ∃ code, readCode source.text = .ok code :=
    fun source member => reads (source.path, source.text) (mem_layOut.mpr ⟨_, .module member⟩)
  have importable : api.clientProjections ≠ [] → IsImportable settings.clientPackage := by
    intro isSome
    obtain ⟨source, member, item, listed, ofClient⟩ := client_imported_of_run done isSome
    obtain ⟨code, read⟩ := moduleReads source member
    have found := coherent.importable_of_readCode member
      named read item listed
    exact (isImportable_append.mp (ofClient ▸ found)).1
  have documentable : ∀ projection ∈ api.projections, projection.Documentable := by
    intro projection inApi
    obtain ⟨source, member, inSource⟩ := @exists_source settings api projection inApi
    obtain ⟨code, read⟩ := moduleReads source member
    have fieldsNamed := ModuleSource.fields_named fun other alsoIn =>
      named other (Api.Coherent.mem_projections_of_source member alsoIn)
    exact ModuleSource.documentable_of_null_not_mem (ModuleSource.titled_of_mem member).2 fieldsNamed
      (null_not_mem_of_readCode read) projection inSource
  refine ⟨fun file => mem_layOut, fun file items isFile => ?_⟩
  exact @Api.Coherent.file_reads settings api [] file items coherent importable named documentable (by simp) isFile

end Generation

end SelectionGen
