import SelectionGen.Proofs.Growth
import SelectionGen.Proofs.LocalNames
import SelectionGen.Proofs.PackageFiles

/-! Rendering. Whatever a schema documents and whatever its types and fields are called, all files of a run can be read
as code. The names in them are spelled as the language wants them and are none of the words that it keeps for itself,
and nothing is nested deeper than a method of a class. Headers of comments and blank lines leave that as it is. -/
namespace SelectionGen

namespace Text

/-- A line feed ends a line whatever stands in front of it. -/
theorem unifyLineEnds_lineEnd (front : List Char) : ∃ before,
    (∀ text, unifyLineEnds (front ++ '\n' :: text) = before ++ '\n' :: unifyLineEnds text) ∧
      (unifyLineEnds front = before ∨ unifyLineEnds front = before ++ ['\n']) := by
  fun_induction unifyLineEnds front with
  | case1 => exact ⟨[], fun text => unifyLineEnds_cons (by decide) text, .inl rfl⟩
  | case2 rest ih =>
    obtain ⟨before, each, whole⟩ := ih
    refine ⟨'\n' :: before, fun text => ?_, whole.imp (congrArg _) (congrArg _)⟩
    rw [List.cons_append, List.cons_append, unifyLineEnds, each, List.cons_append]
  | case3 rest alone ih =>
    cases rest with
    | nil => exact ⟨[], fun text => unifyLineEnds.eq_2 text, .inr rfl⟩
    | cons d rest =>
      obtain ⟨before, each, whole⟩ := ih
      refine ⟨'\n' :: before, fun text => ?_, whole.imp (congrArg _) (congrArg _)⟩
      have stillAlone : ∀ more, d :: rest ++ '\n' :: text = '\n' :: more → False := by
        intro more same
        rw [List.cons_append] at same
        exact alone rest (by rw [(List.cons.inj same).1])
      rw [List.cons_append, unifyLineEnds.eq_3 _ stillAlone, each, List.cons_append]
  | case4 c rest _ plain ih =>
    obtain ⟨before, each, whole⟩ := ih
    refine ⟨c :: before, fun text => ?_, whole.imp (congrArg _) (congrArg _)⟩
    rw [List.cons_append, unifyLineEnds_cons plain, each, List.cons_append]

/-- Line ends alone end blank lines. -/
theorem lines_of_ends {ends : List Char} (areEnds : ∀ c ∈ ends, c = '\n') : ∀ line ∈ lines ends, line = [] := by
  induction ends with
  | nil => simp [lines, unifyLineEnds, splitAt]
  | cons c ends ih =>
    obtain ⟨rfl, behind⟩ := List.forall_mem_cons.mp areEnds
    rw [lines, unifyLineEnds_cons (by decide), splitAt, if_pos rfl]
    exact List.forall_mem_cons.mpr ⟨rfl, ih behind⟩

/-- A character that ends no line belongs to the first one. -/
theorem lines_cons {c : Char} (inside : c ≠ '\n') (plain : c ≠ '\r') {text first : List Char}
    {others : List (List Char)} (split : lines text = first :: others) :
    lines (c :: text) = (c :: first) :: others := by
  rw [lines] at split ⊢
  rw [unifyLineEnds_cons plain, splitAt, if_neg inside, split]

end Text

namespace Target

/-- A line with nothing on it, or nothing but a comment. -/
def isIdle (line : List Char) : Bool :=
  match line.dropWhile Indentation.isBlank with
  | [] => true
  | c :: _ => c == '#'

/-- A header of comments and blank lines. -/
def IsHeader (header : String) : Prop :=
  '\x00' ∉ header.toList ∧ ∀ line ∈ Text.lines header.toList, isIdle line = true

instance : DecidablePred IsHeader := fun header =>
  inferInstanceAs (Decidable ('\x00' ∉ header.toList ∧ ∀ line ∈ Text.lines header.toList, isIdle line = true))

namespace Leads

variable {text : List Char} {depth : Nat} {levels : List Indentation}

theorem idleLine {line : List Char} (idle : isIdle line = true) (onLine : '\n' ∉ line) :
    Leads ⟨line ++ '\n' :: text, depth, levels, true⟩ [] ⟨text, depth, levels, true⟩ := by
  have areBlank : ∀ d ∈ line.takeWhile Indentation.isBlank, Indentation.isBlank d = true :=
    List.all_eq_true.mp List.all_takeWhile
  have whole : line.takeWhile Indentation.isBlank ++ line.dropWhile Indentation.isBlank = line :=
    List.takeWhile_append_dropWhile
  unfold isIdle at idle
  cases behind : line.dropWhile Indentation.isBlank with
  | nil =>
    rw [behind, List.append_nil] at whole
    rw [← whole]
    exact blankLine areBlank
  | cons c comment =>
    rw [behind] at idle whole
    obtain rfl := beq_iff_eq.mp idle
    have inComment : '\n' ∉ comment := fun member => onLine (by rw [← whole]; simp [member])
    rw [← whole, List.append_assoc, List.cons_append]
    exact commentLine areBlank inComment

theorem idleLines {before : List Char} (idle : ∀ line ∈ Text.splitAt '\n' before, isIdle line = true) :
    Leads ⟨before ++ '\n' :: text, depth, levels, true⟩ [] ⟨text, depth, levels, true⟩ := by
  obtain ⟨first, others, split⟩ := List.exists_cons_of_ne_nil (Text.splitAt_ne_nil '\n' before)
  have onLines : ∀ line ∈ first :: others, isIdle line = true ∧ '\n' ∉ line := fun line member => by
    rw [← split] at member
    exact ⟨idle line member, Text.not_mem_of_mem_splitAt member⟩
  rw [← Text.joined_splitAt '\n' before split]
  clear split idle
  induction others generalizing first with
  | nil =>
    obtain ⟨idle, onLine⟩ := onLines first List.mem_cons_self
    simpa using idleLine idle onLine
  | cons next others ih =>
    obtain ⟨idle, onLine⟩ := onLines first List.mem_cons_self
    have later := ih next fun line member => onLines line (List.mem_cons_of_mem _ member)
    have here : Leads ⟨first ++ '\n' :: (next ++ others.flatMap ('\n' :: ·) ++ '\n' :: text), depth, levels, true⟩ []
        ⟨next ++ others.flatMap ('\n' :: ·) ++ '\n' :: text, depth, levels, true⟩ := idleLine idle onLine
    simpa using here.trans later

end Leads

/-- Line ends at the end of a header are not kept. -/
theorem exists_kept (header : String) : ∃ kept ends : List Char, header.toList = kept ++ ends ∧ (∀ c ∈ ends, c = '\n') ∧
    ∀ text, (withHeader text header).toList = kept ++ '\n' :: '\n' :: text.toList := by
  refine ⟨(header.toList.reverse.dropWhile fun c => c == '\n').reverse,
    (header.toList.reverse.takeWhile fun c => c == '\n').reverse, ?_, fun c member => ?_, fun text => ?_⟩
  · rw [← List.reverse_append, List.takeWhile_append_dropWhile, List.reverse_reverse]
  · exact beq_iff_eq.mp (List.all_eq_true.mp List.all_takeWhile c (List.mem_reverse.mp member))
  · simp [withHeader]

/-- The lines of a header stand in front of a text, all but the blank ones at its end, and a blank line behind them. -/
theorem exists_linesOf (header : String) : ∃ (before : List Char) (blanks : List (List Char)),
    Text.lines header.toList = Text.splitAt '\n' before ++ blanks ∧ (∀ line ∈ blanks, line = []) ∧
      ∀ text, Text.unifyLineEnds (withHeader text header).toList
        = before ++ '\n' :: '\n' :: Text.unifyLineEnds text.toList := by
  obtain ⟨kept, ends, whole, areEnds, headed⟩ := exists_kept header
  obtain ⟨before, each, keptLines⟩ := Text.unifyLineEnds_lineEnd kept
  have front (text : String) : Text.unifyLineEnds (withHeader text header).toList
      = before ++ '\n' :: '\n' :: Text.unifyLineEnds text.toList := by
    rw [headed, each, Text.unifyLineEnds_cons (by decide)]
  cases ends with
  | nil =>
    rw [Text.lines, whole, List.append_nil]
    rcases keptLines with same | same
    · exact ⟨before, [], by rw [same, List.append_nil], by simp, front⟩
    · exact ⟨before, [[]], by rw [same, Text.splitAt_append]; rfl, by simp, front⟩
  | cons c ends =>
    obtain ⟨rfl, behind⟩ := List.forall_mem_cons.mp areEnds
    refine ⟨before, Text.lines ends, ?_, Text.lines_of_ends behind, front⟩
    rw [Text.lines, whole, each, Text.splitAt_append, Text.lines]

namespace IsHeader

variable {header : String} {text : String} {kinds : List TokenKind}

theorem null_not_mem (isHeader : IsHeader header) (noNull : '\x00' ∉ text.toList) :
    '\x00' ∉ (withHeader text header).toList := by
  obtain ⟨kept, ends, whole, _, headed⟩ := exists_kept header
  have inKept : '\x00' ∉ kept := fun member => isHeader.1 (by rw [whole]; exact List.mem_append_left _ member)
  simp [headed, inKept, noNull]

/-- The lines of a header are skipped. -/
theorem leads (isHeader : IsHeader header) (text : String) :
    Leads ⟨Text.unifyLineEnds (withHeader text header).toList, 0, [], true⟩ []
      ⟨Text.unifyLineEnds text.toList, 0, [], true⟩ := by
  obtain ⟨before, blanks, ofHeader, _, headed⟩ := exists_linesOf header
  have idle : ∀ line ∈ Text.splitAt '\n' before, isIdle line = true := fun line member =>
    isHeader.2 line (by rw [ofHeader]; exact List.mem_append_left _ member)
  have noBlanks : ∀ d ∈ ([] : List Char), Indentation.isBlank d = true := by simp
  rw [headed]
  exact (Leads.idleLines idle).trans (Leads.blankLine noBlanks)

end IsHeader

/-- The text of a file is that of these statements. -/
structure Spells (items : List Grammar.Meaning) (text : String) : Prop where
  noNull : '\x00' ∉ text.toList
  scans : Scans ⟨Text.unifyLineEnds text.toList, 0, [], true⟩ (items.flatMap Prod.fst)

namespace Spells

variable {items : List Grammar.Meaning} {text : String}

theorem of_laid {rows : List Row} (written : text.toList = rows.flatMap Row.text)
    (laid : Laid [] rows (items.flatMap Prod.fst)) : Spells items text := by
  refine ⟨?_, ?_⟩ <;> rw [written]
  · exact laid.null_not_mem
  · exact laid.scans

/-- Headers change nothing about what a file spells. -/
theorem withHeaders {headers : List String} (areHeaders : ∀ header ∈ headers, IsHeader header)
    (spells : Spells items text) : Spells items (withHeaders headers text) := by
  induction headers generalizing text with
  | nil => exact spells
  | cons header headers ih =>
    have isHeader := areHeaders header List.mem_cons_self
    exact ih (fun other member => areHeaders other (List.mem_cons_of_mem _ member))
      ⟨isHeader.null_not_mem spells.noNull, (isHeader.leads text).scans spells.scans⟩

end Spells

open Grammar

section Depths

variable {cost : DepthCost} {bound : Nat}

theorem listDepth_le {expressions : List Expression}
    (each : ∀ expression ∈ expressions, expression.depth cost ≤ bound) : listDepth cost expressions ≤ bound := by
  induction expressions with
  | nil => exact Nat.zero_le _
  | cons expression expressions ih =>
    rw [listDepth]
    exact Nat.max_le.mpr ⟨each _ List.mem_cons_self, ih fun other member => each other (List.mem_cons_of_mem _ member)⟩

theorem codeDepth_le {code : Code} (each : ∀ statement ∈ code, statement.depth cost ≤ bound) :
    codeDepth cost code ≤ bound := by
  induction code with
  | nil => exact Nat.zero_le _
  | cons statement code ih =>
    rw [codeDepth]
    exact Nat.max_le.mpr ⟨each _ List.mem_cons_self, ih fun other member => each other (List.mem_cons_of_mem _ member)⟩

/-- The two ways in which code can be too deep, as far as code goes that is generated. -/
def IsMeasure (cost : DepthCost) : Prop := cost = .ofReading ∨ cost = .ofTree

/-- What has this meaning is at most so deep. -/
def Reaches (bound : Nat) (means : Statement → Prop) : Prop :=
  ∀ cost, IsMeasure cost → ∀ statement, means statement → statement.depth cost ≤ bound

theorem Grammar.Meant.depth_le {items : List Meaning} {code : Code} (meant : Meant items code)
    (reach : ∀ item ∈ items, Reaches bound item.2) (isMeasure : IsMeasure cost) : codeDepth cost code ≤ bound :=
  codeDepth_le fun statement member => by
    obtain ⟨item, listed, means⟩ := exists_left_of_mem meant member
    exact reach item listed cost isMeasure statement means

section Computed

-- What generated code is made of is told in full, so how deep it is can be computed.
attribute [local simp] Statement.depth StatementForm.depthBelow Expression.depth ExpressionForm.depthBelow
  Parameters.depth Parameter.depth parametersDepth optionalParameterDepth optionalDepth listDepth keywordsDepth
  DepthCost.ofReading DepthCost.ofTree

theorem reaches_documenting (text : String) : Reaches 8 (documenting text).Fits := by
  rintro cost (rfl | rfl) _ ⟨lines, rfl⟩ <;> simp [documenting]

theorem reaches_documentation (description : Option String) :
    ∀ item ∈ documentationMeanings description, Reaches 8 item.2 := by
  cases description <;> simp [documentationMeanings, reaches_documenting]

theorem reaches_passing : Reaches 8 passing.Fits := by
  rintro cost (rfl | rfl) _ ⟨lines, rfl⟩ <;> simp [passing]

theorem Method.reaches_meanings (method : Method) : ∀ item ∈ method.meanings, Reaches 8 item.2 := by
  refine List.forall_mem_append.mpr ⟨reaches_documentation _, ?_⟩
  unfold Method.bodyMeanings
  cases method.body with
  | leaf =>
    simp only [List.forall_mem_cons, List.not_mem_nil, false_implies, implies_true, and_true]
    refine ⟨?_, ?_⟩ <;> rintro cost (rfl | rfl) _ ⟨lines, rfl⟩ <;>
      simp [recording, returning]
  | composite localClass =>
    simp only [List.forall_mem_cons, List.not_mem_nil, false_implies, implies_true, and_true]
    refine ⟨?_, ?_, ?_, ?_⟩ <;> rintro cost (rfl | rfl) _ ⟨lines, rfl⟩ <;>
      simp [creating, recording, calling, returning]

theorem Method.reaches (owner : String) (method : Method) : Reaches 16 (method.Means owner) := by
  rintro cost isMeasure _ ⟨lines, body, rfl, meant⟩
  have inBody := meant.depth_le method.reaches_meanings isMeasure
  unfold Method.function
  cases method.body <;> rcases isMeasure with rfl | rfl <;> simp at inBody ⊢ <;> omega

theorem ClassDeclaration.reaches (declaration : ClassDeclaration) : Reaches 32 declaration.Means := by
  have methods : ∀ item ∈ declaration.meanings, Reaches 16 item.2 := by
    refine List.forall_mem_append.mpr ⟨fun item member => ?_, List.forall_mem_map.mpr fun method _ => method.reaches _⟩
    have shallow : Reaches 8 item.2 := by
      split_ifs at member
      · obtain rfl := List.mem_singleton.mp member
        exact reaches_passing
      · exact reaches_documentation _ item member
    exact fun cost isMeasure statement means => (shallow cost isMeasure statement means).trans (by decide)
  rintro cost isMeasure _ ⟨line, base, decorators, body, rfl, ⟨baseLine, rfl⟩, named, meant⟩
  have inBody := meant.depth_le methods isMeasure
  have inDecorators : listDepth cost decorators ≤ 8 := by
    refine listDepth_le fun expression member => ?_
    obtain ⟨name, _, line, rfl⟩ := exists_left_of_mem named member
    rcases isMeasure with rfl | rfl <;> simp
  rcases isMeasure with rfl | rfl <;> simp at inBody inDecorators ⊢ <;> omega

theorem Import.reaches (dots : Nat) (source : String) (entries : List ImportEntry) :
    Reaches 8 (Import.Imports dots source entries) := by
  rintro cost (rfl | rfl) _ ⟨line, names, rfl, _⟩ <;> simp

theorem reaches_offers (names : List String) : Reaches 8 (Offers names) := by
  rintro cost isMeasure _ ⟨lines, values, rfl, listed⟩
  have inValues : listDepth cost values ≤ 1 := by
    refine listDepth_le fun expression member => ?_
    obtain ⟨name, _, line, rfl⟩ := exists_left_of_mem listed member
    rcases isMeasure with rfl | rfl <;> simp
  rcases isMeasure with rfl | rfl <;> simp at inValues ⊢ <;> omega

end Computed

theorem Reaches.mono {bound deeper : Nat} {means : Statement → Prop} (reaches : Reaches bound means)
    (within : bound ≤ deeper) : Reaches deeper means := fun cost isMeasure statement meant =>
  (reaches cost isMeasure statement meant).trans within

theorem Module.reaches_meanings (written : Module) : ∀ item ∈ written.meanings, Reaches 32 item.2 :=
  List.forall_mem_append.mpr ⟨List.forall_mem_cons.mpr ⟨(reaches_documenting _).mono (by decide),
    List.forall_mem_map.mpr fun _ _ => (Import.reaches _ _ _).mono (by decide)⟩,
    List.forall_mem_map.mpr fun declaration _ => declaration.reaches⟩

theorem reaches_packageMeanings (package : String) (sources : List ModuleSource) :
    ∀ item ∈ packageMeanings package sources, Reaches 32 item.2 := by
  refine List.forall_mem_cons.mpr ⟨(reaches_documenting _).mono (by decide), ?_⟩
  split_ifs
  · simp
  · refine List.forall_mem_append.mpr ⟨List.forall_mem_map.mpr fun _ _ => (Import.reaches _ _ _).mono (by decide),
      fun item member => ?_⟩
    obtain rfl := List.mem_singleton.mp member
    exact (reaches_offers _).mono (by decide)

/-- What spells statements that are not too deep is read as code with these statements. -/
theorem Spells.readCode {items : List Meaning} {text : String} (spells : Spells items text)
    (takes : ∀ item ∈ items, ∃ depth < item.1.length, Takes depth item.1 item.2)
    (reach : ∀ item ∈ items, Reaches 32 item.2) : ∃ code, readCode text = .ok code ∧ Meant items code := by
  obtain ⟨tokens, cut, kinds⟩ := spells.scans (fun source line =>
    (Token.ofTextUpTo text.toList.length source line).map List.dropLast) 1
  have ofText : Token.ofText text.toList = some tokens := cut
  obtain ⟨lines, numbering⟩ := exists_numbered tokens
  rw [kinds] at numbering
  obtain ⟨code, read, meant⟩ := codeOf_numbered takes lines
  have reading := meant.depth_le reach (.inl rfl)
  have tree := meant.depth_le reach (.inr rfl)
  have inReading : ¬ readingLimit < codeDepth .ofReading code := Nat.not_lt.mpr (reading.trans (by decide))
  have inTree : ¬ treeLimit < codeDepth .ofTree code := Nat.not_lt.mpr (tree.trans (by decide))
  have noNull : text.toList.contains '\x00' = false := by simpa using spells.noNull
  refine ⟨code, ?_, meant⟩
  rw [Target.readCode, noNull, ofText, Option.bind_some, numbering, read]
  simp [inReading, inTree]

end Depths

end Target

open Target Grammar

/-! Names that a run gives out. -/

namespace Projection

/-- No word of the language is as long as the names of classes. -/
theorem not_mem_keywords {name : String} (long : 8 < name.length) : name ∉ keywords := by
  have short : ∀ keyword ∈ keywords, keyword.length ≤ 8 := by decide
  exact fun member => absurd (short name member) (Nat.not_le.mpr long)

theorem projection_not_mem_keywords (front : String) : front ++ "Projection" ∉ keywords := by
  have suffix : "Projection".length = 10 := by decide
  refine not_mem_keywords ?_
  rw [String.length_append, suffix]
  omega

theorem isName_className (typeName : Sdl.Name) : Sdl.isName (className typeName.text).toList = true := by
  have continues : ∀ c ∈ "Projection".toList, Sdl.isNameContinue c = true :=
    List.all_eq_true.mp (by decide)
  rw [className, String.toList_append]
  exact Sdl.isName_append (isName_capitalized typeName.spelled) continues

/-- The name of an accessor is that of its field with underscores behind it. -/
theorem isName_accessorName (taken : List String) (field : Sdl.Name) :
    Sdl.isName (accessorName taken field.text).toList = true := by
  obtain ⟨count, whole, _⟩ := accessorName_toList taken field.text
  rw [whole]
  refine Sdl.isName_append field.spelled fun c member => ?_
  rw [List.eq_of_mem_replicate member]
  decide

/-- The accessors of a class, and the fields that they record, have names. -/
def NamesAccessors (projection : Projection) : Prop := ∀ accessor ∈ projection.accessors,
  Sdl.isName accessor.name.toList = true ∧ Sdl.isName accessor.fieldName.toList = true

/-- What a class documents can be written. -/
structure Documentable (projection : Projection) : Prop where
  description : ∀ text ∈ projection.description, Target.IsDocumentable text
  accessors : ∀ accessor ∈ projection.accessors, ∀ text ∈ accessor.description, Target.IsDocumentable text

end Projection

/-- What the types of a document and their fields document can be written. -/
structure Schema.Documentable (document : Sdl.Document) : Prop where
  types : ∀ definition, .type definition ∈ document → ∀ text ∈ definition.description, Target.IsDocumentable text
  fields : ∀ definition, .type definition ∈ document → ∀ field ∈ definition.fields, ∀ text ∈ field.description,
    Target.IsDocumentable text

/-- A document is documented with what can be written if its entries are. -/
theorem Schema.Documentable.of_entries {document : Sdl.Document}
    (entries : ∀ entry ∈ document, ∀ definition, entry.type? = some definition →
      (∀ text ∈ definition.description, Target.IsDocumentable text) ∧
        ∀ field ∈ definition.fields, ∀ text ∈ field.description, Target.IsDocumentable text) : Documentable document :=
  ⟨fun definition member => (entries _ member definition rfl).1,
    fun definition member => (entries _ member definition rfl).2⟩

namespace Projection.Context

open Sdl Schema

variable {context : Context} {position : Nat} {definition : TypeDefinition} {fields : List ResolvedField}

theorem accessors_documentable
    (documented : ∀ resolved ∈ fields, ∀ text ∈ resolved.field.description, Target.IsDocumentable text) :
    ∀ accessor ∈ context.accessors [] fields, ∀ text ∈ accessor.description, Target.IsDocumentable text := by
  intro accessor member text described
  obtain ⟨resolved, inFields, same⟩ := field_of_accessor member
  simp only [Accessor.meaning, fieldMeaning, Prod.mk.injEq] at same
  exact documented resolved inFields text (by rw [← same.2.2]; exact described)

theorem resolvedFields_documentable (documentable : Schema.Documentable context.document) {isRoot : Bool}
    (stored : typeAt? context.document position = some definition) :
    ∀ resolved ∈ context.resolvedFields isRoot position definition, ∀ text ∈ resolved.field.description,
      Target.IsDocumentable text := by
  intro resolved member
  obtain ⟨source, inDocument, declares⟩ := declared_of_resolved stored resolved member
  exact documentable.fields source inDocument _ declares

end Projection.Context

namespace Generation

open Sdl Schema Projection

variable {settings : Settings} {filters : List TypeFilter} {load : Unit → Loading} {api : Api}

theorem accessors_named_of_run (done : (run settings filters load).outcome = .ok api) :
    ∀ projection ∈ api.projections, projection.NamesAccessors := by
  have each {context : Context} {fields : List ResolvedField} : ∀ accessor ∈ context.accessors [] fields,
      Sdl.isName accessor.name.toList = true ∧ Sdl.isName accessor.fieldName.toList = true := by
    intro accessor member
    obtain ⟨resolved, _, records, before, named⟩ := Context.accessor_named member
    rw [named, records]
    exact ⟨isName_accessorName before resolved.field.name, resolved.field.name.spelled⟩
  rcases descent_of_run done with rfl | ⟨document, position, definition, given, final, _, _, _, rfl⟩
  · simp [Api.projections]
  · simp only [Api.projections, List.singleton_append, List.forall_mem_cons, List.forall_mem_map]
    exact ⟨each, fun target _ => each⟩

/-- What classes document comes from the document. -/
theorem documentable_of_run (done : (run settings filters load).outcome = .ok api)
    (documentable : ∀ document, (load ()).outcome = .ok document → Schema.Documentable document) :
    ∀ projection ∈ api.projections, projection.Documentable := by
  rcases descent_of_run done with rfl | ⟨document, position, definition, given, final, loaded, root, descent, rfl⟩
  · simp [Api.projections]
  · have whole := documentable document loaded
    have filtered : Schema.Documentable (TypeFilter.applyAll filters document) :=
      ⟨fun definition member => whole.types definition ((TypeFilter.applyAll_sublist filters document).mem member),
        fun definition member => whole.fields definition ((TypeFilter.applyAll_sublist filters document).mem member)⟩
    obtain ⟨isExtension, isFirst⟩ := isFirst_of_findRoot root
    have described {position : Nat} {definition : TypeDefinition}
        (stored : typeAt? (TypeFilter.applyAll filters document) position = some definition) :
        ∀ text ∈ definition.description, Target.IsDocumentable text :=
      filtered.types definition (List.mem_of_getElem? (typeAt_eq_some_iff.mp stored))
    simp only [Api.projections, List.singleton_append, List.forall_mem_cons, List.forall_mem_map]
    refine ⟨⟨described isFirst.stored, Context.accessors_documentable fun resolved member => ?_⟩,
      fun target inGiven => ?_⟩
    · exact Context.resolvedFields_documentable filtered isFirst.stored resolved (List.mem_of_mem_filter member)
    · have stored := ((descent.given_reached target inGiven).resolves
        fun _ => Context.resolves_of_mem_rootTargets).typeAt
      exact ⟨described stored, Context.accessors_documentable (Context.resolvedFields_documentable filtered stored)⟩

end Generation

/-! The files of classes that belong together. -/

namespace Target

/-- A package that code can import from. -/
@[mk_iff] structure IsImportable (package : String) : Prop where
  dotted : Settings.isDottedName package.toList = true
  plain : ∀ part ∈ Text.pieces '.' package, part ∉ Projection.keywords

instance (package : String) : Decidable (IsImportable package) := decidable_of_iff' _ (isImportable_iff package)

theorem isImportable_append {first second : String} :
    IsImportable (first ++ "." ++ second) ↔ IsImportable first ∧ IsImportable second := by
  have parts : (first ++ "." ++ second).toList = first.toList ++ '.' :: second.toList := by simp
  rw [isImportable_iff, isImportable_iff, isImportable_iff, Text.pieces, parts, Settings.isDottedName_append,
    Bool.and_eq_true, Text.splitAt_append, List.map_append, List.forall_mem_append]
  exact and_and_and_comm

theorem IsImportable.append {first second : String} (front : IsImportable first) (back : IsImportable second) :
    IsImportable (first ++ "." ++ second) := isImportable_append.mpr ⟨front, back⟩

theorem isImportable_supportModule : IsImportable supportModule := by decide

end Target

namespace Api.Coherent

open Target

variable {settings : Settings} {api : Api} {source : ModuleSource} {projection : Projection}

/-- A module imports from the support module and from the module of the client's classes. -/
theorem import_source (coherent : api.Coherent settings) (member : source ∈ moduleSources api settings) :
    ∀ item ∈ source.imports, item.source = supportModule ∨
      item.source = settings.clientPackage ++ "." ++ projectionsModule ∧ api.clientProjections ≠ [] := by
  intro item listed
  obtain ⟨isSome, each⟩ := ModuleSource.import_entries listed
  obtain ⟨entry, inItem⟩ := List.exists_mem_of_ne_nil _ isSome
  rcases ModuleSource.mem_importPairs.mp (each entry inItem) with
    ⟨projection, inSource, reference, isSupport, package, _⟩ | ⟨reference, used, _, package⟩
  · have inherited := coherent.inherits projection (mem_projections_of_source member inSource)
    rw [inherited.1, inherited.2] at isSupport
    rcases List.mem_pair.mp isSupport with rfl | rfl <;> exact .inl package
  · obtain ⟨below, inClient, _, inPackage⟩ := coherent.used_class member used
    exact .inr ⟨by rw [package, ModuleSource.moduleOf, inPackage], List.ne_nil_of_mem inClient⟩

/-- What is imported from a module with a dotted name is called something that can be defined, and bound to such a
name. -/
theorem importPair_definable (coherent : api.Coherent settings) (member : source ∈ moduleSources api settings)
    {name : String} {entry : ImportEntry} (inPairs : (name, entry) ∈ source.importPairs)
    (dotted : Settings.isDottedName name.toList = true) :
    IsDefinable entry.name ∧ ∀ bound ∈ entry.alias?, IsDefinable bound := by
  rcases ModuleSource.mem_importPairs.mp inPairs with
    ⟨projection, inSource, reference, isSupport, _, rfl⟩ | ⟨reference, used, imported, rfl⟩
  · have inherited := coherent.inherits projection (mem_projections_of_source member inSource)
    rw [inherited.1, inherited.2] at isSupport
    rcases List.mem_pair.mp isSupport with rfl | rfl <;>
      exact ⟨⟨by decide, by decide⟩, by simp⟩
  · obtain ⟨below, inClient, rfl, _⟩ := coherent.used_class member used
    obtain ⟨typeName, same⟩ := coherent.named below (List.mem_append_right _ inClient)
    have spelled : below.classRef.Spelled := by
      have parts : (ModuleSource.moduleOf below.classRef).toList
          = below.classRef.package.toList ++ '.' :: projectionsModule.toList := by simp [ModuleSource.moduleOf]
      rw [parts, Settings.isDottedName_append, Bool.and_eq_true] at dotted
      refine ⟨?_, dotted.1⟩
      rw [show below.classRef.name = _ from same]
      exact Projection.isName_className typeName
    obtain ⟨sameName, sameBound⟩ := ModuleSource.importOf_spec imported
    obtain ⟨front, ends⟩ := coherent.localName_ends member used
    refine ⟨⟨sameName ▸ spelled.name, ?_⟩, fun bound isAlias => ?_⟩
    · rw [sameName, show below.classRef.name = _ from same]
      exact Projection.projection_not_mem_keywords _
    · rw [ImportEntry.bound, isAlias, Option.getD_some] at sameBound
      refine ⟨sameBound ▸ ModuleSource.isName_localName spelled, ?_⟩
      rw [sameBound, ends]
      exact Projection.projection_not_mem_keywords _

/-- All that an import from a module with a dotted name brings in can be defined under the name it gets. -/
theorem import_definable (coherent : api.Coherent settings) (member : source ∈ moduleSources api settings)
    {item : Import} (listed : item ∈ source.imports) (dotted : Settings.isDottedName item.source.toList = true) :
    ∀ entry ∈ item.entries, IsDefinable entry.name ∧ ∀ bound ∈ entry.alias?, IsDefinable bound := fun entry inItem =>
  coherent.importPair_definable member ((ModuleSource.import_entries listed).2 entry inItem) dotted

theorem import_spelled (coherent : api.Coherent settings) (member : source ∈ moduleSources api settings)
    {item : Import} (listed : item ∈ source.imports) (dotted : Settings.isDottedName item.source.toList = true) :
    item.Spelled where
  source := dotted
  isSome := (ModuleSource.import_entries listed).1
  names := fun entry inItem => (coherent.import_definable member listed dotted entry inItem).1.named
  aliases := fun entry inItem bound isAlias =>
    ((coherent.import_definable member listed dotted entry inItem).2 bound isAlias).named

theorem import_plain (coherent : api.Coherent settings) (member : source ∈ moduleSources api settings)
    {item : Import} (listed : item ∈ source.imports) (importable : IsImportable item.source) : item.Plain where
  isSome := (ModuleSource.import_entries listed).1
  source := importable.plain
  names := fun entry inItem => (coherent.import_definable member listed importable.dotted entry inItem).1.plain
  aliases := fun entry inItem bound isAlias =>
    ((coherent.import_definable member listed importable.dotted entry inItem).2 bound isAlias).plain

/-- Code can import all that a module imports if it can import from the client's package. -/
theorem imports_importable (coherent : api.Coherent settings)
    (importable : api.clientProjections ≠ [] → IsImportable settings.clientPackage)
    (member : source ∈ moduleSources api settings) : ∀ item ∈ source.imports, IsImportable item.source := by
  intro item listed
  rcases coherent.import_source member item listed with isSupport | ⟨ofClient, isSome⟩
  · exact isSupport ▸ isImportable_supportModule
  · have projections : IsImportable projectionsModule := by decide
    exact ofClient ▸ (importable isSome).append projections

/-- A module knows each class by a name, as far as code can import what it imports. -/
theorem isName_localName (coherent : api.Coherent settings) (member : source ∈ moduleSources api settings)
    (importable : ∀ item ∈ source.imports, IsImportable item.source) {reference : ClassRef}
    (used : reference ∈ source.usedClasses) : Sdl.isName (source.localName reference).toList = true := by
  cases imported : source.importOf? reference with
  | none =>
    obtain ⟨below, inClient, rfl, _⟩ := coherent.used_class member used
    obtain ⟨typeName, same⟩ := coherent.named below (List.mem_append_right _ inClient)
    rw [ModuleSource.localName, imported]
    exact (congrArg (fun name => Sdl.isName name.toList) same).trans (Projection.isName_className typeName)
  | some entry =>
    have inPairs := ModuleSource.mem_importPairs.mpr (.inr ⟨reference, used, imported, rfl⟩)
    obtain ⟨item, listed, ofModule, _⟩ := ModuleSource.exists_import inPairs
    obtain ⟨named, bound⟩ := coherent.importPair_definable member inPairs (ofModule ▸ (importable item listed).dotted)
    rw [← (ModuleSource.importOf_spec imported).2, ImportEntry.bound]
    cases isAlias : entry.alias? with
    | none => exact named.named
    | some other => exact (bound other isAlias).named

/-- A module is spelled correctly if code can import what it imports, its accessors are, and what it documents can be
written. -/
theorem toModule_spelled (coherent : api.Coherent settings) (member : source ∈ moduleSources api settings)
    (importable : ∀ item ∈ source.imports, IsImportable item.source)
    (named : ∀ projection ∈ source.projections, projection.NamesAccessors)
    (documentable : ∀ projection ∈ source.projections, projection.Documentable) : source.toModule.Spelled where
  title := (ModuleSource.titled_of_mem member).1
  plainTitle := (ModuleSource.titled_of_mem member).2
  imports := fun item listed => coherent.import_spelled member listed (importable item listed).dotted
  classes := by
    refine List.forall_mem_map.mpr fun projection inSource => ?_
    obtain ⟨typeName, same⟩ := coherent.named projection (mem_projections_of_source member inSource)
    obtain ⟨base, decorators⟩ := coherent.inherits projection (mem_projections_of_source member inSource)
    have documents := documentable projection inSource
    refine ⟨?_, ?_, ?_, List.forall_mem_map.mpr fun accessor listed => ⟨(named projection inSource accessor listed).1,
      (named projection inSource accessor listed).2, fun localClass goesOn => ?_,
      ModuleSource.Spelled.documentation (documents.accessors accessor listed)⟩,
      ModuleSource.Spelled.documentation documents.description⟩
    · rw [show (source.classDeclaration projection).name = _ from same]
      exact Projection.isName_className typeName
    · simp only [ModuleSource.classDeclaration, base]
      decide
    · simp only [ModuleSource.classDeclaration, decorators]
      decide
    · cases selector : accessor.selector with
      | leaf => simp [ModuleSource.method, selector] at goesOn
      | composite sub =>
        obtain rfl : source.localName sub = localClass := by simpa [ModuleSource.method, selector] using goesOn
        exact coherent.isName_localName member importable
          (ModuleSource.mem_usedClasses.mpr ⟨projection, inSource, accessor, listed, selector⟩)

/-- No name in a module is a word that the language keeps for itself. -/
theorem toModule_plain (coherent : api.Coherent settings) (member : source ∈ moduleSources api settings)
    (importable : ∀ item ∈ source.imports, IsImportable item.source) : source.toModule.Plain where
  imports := fun item listed => coherent.import_plain member listed (importable item listed)
  classes := by
    refine List.forall_mem_map.mpr fun projection inSource => ?_
    have inApi := mem_projections_of_source member inSource
    obtain ⟨typeName, same⟩ := coherent.named projection inApi
    obtain ⟨base, decorators⟩ := coherent.inherits projection inApi
    refine ⟨?_, ?_, ?_, List.forall_mem_map.mpr fun accessor listed => ⟨fun keyword => ?_, fun localClass goesOn => ?_⟩⟩
    · rw [show (source.classDeclaration projection).name = _ from same]
      exact Projection.projection_not_mem_keywords _
    · simp only [ModuleSource.classDeclaration, base]
      decide
    · simp only [ModuleSource.classDeclaration, decorators]
      decide
    · have reserved := List.mem_append_left Projection.signatureNames
        (List.mem_append_left Projection.inheritedMembers keyword)
      exact coherent.unreserved projection inApi accessor listed reserved
    · cases selector : accessor.selector with
      | leaf => simp [ModuleSource.method, selector] at goesOn
      | composite sub =>
        obtain rfl : source.localName sub = localClass := by simpa [ModuleSource.method, selector] using goesOn
        have used : sub ∈ source.usedClasses :=
          ModuleSource.mem_usedClasses.mpr ⟨projection, inSource, accessor, listed, selector⟩
        obtain ⟨front, ends⟩ := coherent.localName_ends member used
        exact ends ▸ Projection.projection_not_mem_keywords front

end Api.Coherent

namespace Target

variable {settings : Settings} {api : Api} {source : ModuleSource} {sources : List ModuleSource}

theorem ModuleSource.fields_named (named : ∀ projection ∈ source.projections, projection.NamesAccessors) :
    ∀ declaration ∈ source.toModule.classes, ∀ method ∈ declaration.methods,
      Sdl.isName method.fieldName.toList = true :=
  List.forall_mem_map.mpr fun projection inSource => List.forall_mem_map.mpr fun accessor inProjection =>
    (named projection inSource accessor inProjection).2

/-- A module is written as its declarations. -/
theorem Module.Spelled.spells {written : Module} (spelled : written.Spelled) :
    Spells written.meanings written.render := by
  have named : ∀ declaration ∈ written.classes, ∀ method ∈ declaration.methods,
      Sdl.isName method.fieldName.toList = true := fun declaration listed method member =>
    ((spelled.classes declaration listed).methods method member).fieldName
  have kinds : written.tokenKinds = written.meanings.flatMap Prod.fst := by
    simp [Module.meanings, Module.opening, Module.tokenKinds, List.flatMap_map]
  exact Spells.of_laid (Module.render_toList spelled.plainTitle named) (kinds ▸ Module.laid spelled)

/-- The file of a package is written as what it brings in and offers. -/
theorem packageFile_spells (exportable : ∀ source ∈ sources, source.Exportable) (package : String) :
    Spells (packageMeanings package sources) (packageFile sources package).2 :=
  Spells.of_laid (packageLines_toList package sources) (package_laid exportable)

/-- The files of some modules, each with what stands in it: the modules themselves, and the files that make packages of
all directories on the way to them. -/
inductive IsFile (sources : List ModuleSource) : String × String → List Meaning → Prop
  | module {source : ModuleSource} (member : source ∈ sources) :
    IsFile sources (source.path, source.text) source.toModule.meanings
  | package {source : ModuleSource} {package : String} (member : source ∈ sources)
    (onTheWay : package ∈ packagesTo source.package) :
    IsFile sources (packageFile sources package) (packageMeanings package sources)

theorem mem_arrange {modules : Files} {file : String × String} : file ∈ arrange modules sources ↔
    file ∈ modules ∨ ∃ source ∈ sources, ∃ package ∈ packagesTo source.package, packageFile sources package = file := by
  simp only [arrange, List.mem_mergeSort, List.mem_append, List.mem_map, List.mem_eraseDups, List.mem_flatMap]
  exact or_congr_right ⟨fun ⟨package, ⟨source, member, onTheWay⟩, same⟩ => ⟨source, member, package, onTheWay, same⟩,
    fun ⟨source, member, package, onTheWay, same⟩ => ⟨package, ⟨source, member, onTheWay⟩, same⟩⟩

theorem mem_layOut {file : String × String} : file ∈ layOut sources ↔ ∃ items, IsFile sources file items := by
  rw [layOut, mem_arrange, List.mem_map]
  constructor
  · rintro (⟨source, member, rfl⟩ | ⟨source, member, package, onTheWay, rfl⟩)
    · exact ⟨_, .module member⟩
    · exact ⟨_, .package member onTheWay⟩
  · rintro ⟨items, isFile⟩
    cases isFile with
    | module member => exact .inl ⟨_, member, rfl⟩
    | package member onTheWay => exact .inr ⟨_, member, _, onTheWay, rfl⟩

/-- Modules of classes whose names can be defined define something that can be offered. -/
theorem exportable_of_definable (definable : ∀ projection ∈ api.projections, IsDefinable projection.name) :
    ∀ source ∈ moduleSources api settings, source.Exportable := by
  intro source member
  have isSome := (List.mem_filter.mp member).2
  refine ⟨?_, ?_, List.forall_mem_map.mpr fun projection inSource => ?_⟩
  · simpa [ModuleSource.classNames] using isSome
  · rcases source_cases member with ⟨same, _⟩ | ⟨same, _⟩ <;> rw [same] <;>
      exact ⟨by decide, by decide⟩
  · exact definable projection (Api.Coherent.mem_projections_of_source member inSource)

theorem definable_of_coherent (coherent : api.Coherent settings) :
    ∀ projection ∈ api.projections, IsDefinable projection.name := by
  intro projection member
  obtain ⟨typeName, same⟩ := coherent.named projection member
  rw [same]
  exact ⟨Projection.isName_className typeName, Projection.projection_not_mem_keywords _⟩

/-- The modules of classes that belong together define something that can be offered. -/
theorem exportable_of_coherent (coherent : api.Coherent settings) :
    ∀ source ∈ moduleSources api settings, source.Exportable :=
  exportable_of_definable (definable_of_coherent coherent)

theorem checkUnique_error {before : List ModuleSource} {error : RenderError}
    (refused : checkUnique before sources = .error error) :
    ∃ package className, error = .duplicateClass package className := by
  induction sources generalizing before with
  | nil => cases refused
  | cons source rest ih =>
    rw [checkUnique] at refused
    split at refused
    · exact ⟨_, _, (Except.error.inj refused).symm⟩
    · exact ih refused

/-- Modules are checked one after the other. -/
theorem checkUnique_cons (before : List ModuleSource) (source : ModuleSource) (rest : List ModuleSource) :
    checkUnique before (source :: rest)
      = (checkUnique before [source]).bind fun _ => checkUnique (before ++ [source]) rest := by
  simp only [checkUnique]
  cases firstRepeated? [] (source.classNames ++ exportedNames source.package before) <;> rfl

/-- Where no template fails, there are no other errors than those without templates. -/
theorem RenderError.widen_eq (error : RenderError) : error.widen = error := by
  cases error with
  | template fault => exact fault.elim
  | _ => rfl

/-- Without a template the modules are written as they are declared, if each package defines its classes once. -/
theorem moduleFiles_declared (fill : TemplateRule Empty) (before sources : List ModuleSource) :
    moduleFiles [] fill before sources
      = (checkUnique before sources).map fun _ => sources.map ModuleSource.file := by
  induction sources generalizing before with
  | nil => rfl
  | cons source rest ih =>
    rw [moduleFiles, checkUnique_cons before source rest, ih]
    cases checkUnique before [source] with
    | error error => exact congrArg Except.error error.widen_eq
    | ok _ => cases checkUnique (before ++ [source]) rest <;> rfl

theorem render_declared (settings : Settings) (headers : List String) (api : Api) : render settings headers [] api
    = (checkUnique [] (moduleSources api settings)).bind fun _ =>
        (layOut (moduleSources api settings)).mapM (finish headers) := by
  rw [render, moduleFiles_declared]
  cases checkUnique [] (moduleSources api settings) <;> rfl

/-- A file is given out exactly where it is code behind its headers, and then as just that. -/
theorem finish_eq_ok_iff {ε : Type} {headers : List String} {file result : String × String} :
    (finish headers file : Except (RenderError ε) (String × String)) = .ok result ↔
      (∃ code, readCode (withHeaders headers file.2) = .ok code) ∧ (file.1, withHeaders headers file.2) = result := by
  rw [finish]
  cases readCode (withHeaders headers file.2) with
  | ok code => simp
  | error fault => cases fault <;> simp

/-- Files that all read as code are written, unless a package would define a class twice. -/
theorem render_of_readCode {headers : List String} (unique : checkUnique [] (moduleSources api settings) = .ok ())
    (each : ∀ file ∈ layOut (moduleSources api settings),
      ∃ code, readCode (withHeaders headers file.2) = .ok code) :
    render settings headers [] api
      = .ok ((layOut (moduleSources api settings)).map fun file => (file.1, withHeaders headers file.2)) := by
  rw [render_declared, unique]
  exact mapM_of_each fun file member => finish_eq_ok_iff.mpr ⟨each file member, rfl⟩

end Target

namespace Api.Coherent

variable {settings : Settings} {api : Api} {headers : List String}

/-- A module of classes that belong together is read as what stands in it, if code can import what it imports, its
accessors have names and what it documents can be written. -/
theorem module_reads {source : ModuleSource} (coherent : api.Coherent settings)
    (member : source ∈ moduleSources api settings) (importable : ∀ item ∈ source.imports, IsImportable item.source)
    (named : ∀ projection ∈ source.projections, projection.NamesAccessors)
    (documentable : ∀ projection ∈ source.projections, projection.Documentable)
    (areHeaders : ∀ header ∈ headers, IsHeader header) :
    ∃ code, readCode (withHeaders headers source.text) = .ok code ∧ Meant source.toModule.meanings code :=
  ((coherent.toModule_spelled member importable named documentable).spells.withHeaders areHeaders).readCode
    (Module.takes_meanings (coherent.toModule_plain member importable)) (Module.reaches_meanings _)

/-- The file of a package of classes that belong together is read as what it brings in and offers. -/
theorem package_reads (coherent : api.Coherent settings) (areHeaders : ∀ header ∈ headers, IsHeader header)
    (package : String) : ∃ code,
      readCode (withHeaders headers (packageFile (moduleSources api settings) package).2) = .ok code ∧
        Meant (packageMeanings package (moduleSources api settings)) code :=
  ((packageFile_spells (exportable_of_coherent coherent) package).withHeaders areHeaders).readCode
    (takes_packageMeanings (exportable_of_coherent coherent)) (reaches_packageMeanings _ _)

/-- Each file of classes that belong together is read as what stands in it, if their accessors have names and what they
document can be written. -/
theorem file_reads {file : String × String} {items : List Meaning} (coherent : api.Coherent settings)
    (importable : api.clientProjections ≠ [] → IsImportable settings.clientPackage)
    (named : ∀ projection ∈ api.projections, projection.NamesAccessors)
    (documentable : ∀ projection ∈ api.projections, projection.Documentable)
    (areHeaders : ∀ header ∈ headers, IsHeader header) (isFile : IsFile (moduleSources api settings) file items) :
    ∃ code, readCode (withHeaders headers file.2) = .ok code ∧ Meant items code := by
  cases isFile with
  | module member =>
    exact coherent.module_reads member (coherent.imports_importable importable member)
      (fun projection inSource => named projection (mem_projections_of_source member inSource))
      (fun projection inSource => documentable projection (mem_projections_of_source member inSource)) areHeaders
  | package _ _ => exact coherent.package_reads areHeaders _

end Api.Coherent

namespace Generation

open Schema

variable {settings : Settings} {filters : List TypeFilter} {load : Unit → Loading} {api : Api} {headers : List String}

/-- The files that a run is laid out in all read as code, also behind headers, if code can import from the packages and
what the schema documents can be written. -/
theorem layOut_reads (done : (run settings filters load).outcome = .ok api)
    (packages : ∀ package ∈ [settings.packageName, settings.clientPart], IsImportable package.text)
    (documentable : ∀ document, (load ()).outcome = .ok document → Schema.Documentable document)
    (areHeaders : ∀ header ∈ headers, IsHeader header) :
    ∀ file ∈ layOut (moduleSources api settings), ∃ code, readCode (withHeaders headers file.2) = .ok code := by
  intro file member
  have importable : IsImportable settings.clientPackage :=
    (packages _ (by simp)).append (packages _ (by simp))
  obtain ⟨items, isFile⟩ := mem_layOut.mp member
  obtain ⟨code, read, _⟩ := (coherent_of_run done).file_reads (fun _ => importable) (accessors_named_of_run done)
    (documentable_of_run done documentable) areHeaders isFile
  exact ⟨code, read⟩

/-- **Schemas never render to malformed code.** Whatever a schema calls its types and fields and whatever it documents,
null characters apart, a run that has a result under packages that code can import from is written to files that all
read as code, also behind headers of comments and blank lines. The one thing that keeps it from being written is that a
class would be there twice in a package. -/
theorem rendered_code_reads (done : (run settings filters load).outcome = .ok api)
    (packages : ∀ package ∈ [settings.packageName, settings.clientPart], IsImportable package.text)
    (documentable : ∀ document, (load ()).outcome = .ok document → Schema.Documentable document)
    (areHeaders : ∀ header ∈ headers, IsHeader header) :
    (∃ package className,
        checkUnique [] (moduleSources api settings) = .error (.duplicateClass package className) ∧
        render settings headers [] api = .error (.duplicateClass package className)) ∨
      ∃ files, render settings headers [] api = .ok files ∧ ∀ file ∈ files, ∃ code, readCode file.2 = .ok code := by
  have each := layOut_reads done packages documentable areHeaders
  cases unique : checkUnique [] (moduleSources api settings) with
  | error error =>
    obtain ⟨package, className, rfl⟩ := checkUnique_error unique
    refine .inl ⟨package, className, rfl, ?_⟩
    rw [render_declared, unique]
    rfl
  | ok _ => exact .inr ⟨_, render_of_readCode unique each, List.forall_mem_map.mpr each⟩

end Generation

/-! A schema that gives everything a name that the language keeps for itself, and whose documentation tries to get out
of its literals. -/
namespace Projection.Reserved

open Schema Sdl

theorem isName_int : isName "Int".toList = true := by decide

theorem isName_class : isName "class".toList = true := by decide

def none : Target where
  fst := 1
  snd.kind := .object
  snd.name := ⟨"None", by decide +kernel⟩
  snd.description := some "\"\"\"\n    def stolen(self): pass\n    \"\"\""
  snd.fields :=
    [{ name := ⟨"import", by decide +kernel⟩, type := ⟨[], ⟨"Int", isName_int⟩⟩
       description := some "Ends with \\\r\nand \"" },
     { name := ⟨"serialize", by decide +kernel⟩, type := ⟨[], ⟨"Int", isName_int⟩⟩, description := some "" }]

def query : TypeDefinition where
  kind := .object
  name := customaryQuery
  description := some "\\"
  fields := [{ name := ⟨"class", isName_class⟩, type := ⟨[], none.name⟩ }]

def schema : Document := [.type query, .type none.2]

def context : Context := ⟨{}, schema⟩

def api : Api where
  queryTypes := [context.rootProjectionOf 0 query]
  clientProjections := [context.projection none]

theorem descent : context.Descent (context.rootTargets 0 query) [] [none] [none.entry] .none := by
  have ofQuery : context.rootTargets 0 query = [none] := by decide
  rw [ofQuery]
  exact .alone rfl (by decide) .done

theorem generated : (Generation.run {} [] fun _ => ⟨.ok schema, "", []⟩).outcome = .ok api := by
  have root : findRoot? schema .query = some (0, query) := by decide
  exact Generation.outcome_of_descent rfl root descent

theorem documentable : ∀ document, (Loading.outcome ⟨.ok schema, "", []⟩) = .ok document →
    Schema.Documentable document := by
  rintro document loaded
  cases loaded
  exact Schema.Documentable.of_entries (by decide)

/-- All of it is written as code behind headers. -/
theorem code_reads :
    ∃ files, render {} ["# Made from a schema.\n\n", "\t# By hand.\r\n"] [] api = .ok files ∧
      ∀ file ∈ files, ∃ code, readCode file.2 = .ok code := by
  have packages : ∀ package ∈ [({} : Settings).packageName, ({} : Settings).clientPart], IsImportable package.text := by
    decide
  have areHeaders : ∀ header ∈ ["# Made from a schema.\n\n", "\t# By hand.\r\n"], IsHeader header := by decide
  have unique : checkUnique [] (moduleSources api {}) = .ok () := by decide
  rcases Generation.rendered_code_reads generated packages documentable areHeaders with
    ⟨package, className, refused, _⟩ | written
  · rw [unique] at refused
    cases refused
  · exact written

end Projection.Reserved

end SelectionGen
