import SelectionGen.Proofs.ModuleLayout

/-! The tokens of modules. A class and each of its methods open a block of their own and close it again, at whatever
level the rows in front have left off: what stands open is closed by the first row behind that stands further out. So
the tokens of a module are those of its declarations, one after the other. -/
namespace SelectionGen.Target

/-- The tokens of a line and its end. -/
def lineKinds (parts : List Part) : List TokenKind := parts.flatMap Part.kinds ++ [.lineEnd]

/-- The levels that are open in the body of a class. -/
def classLevel : List Indentation := [⟨4, 4⟩]

/-- The levels that are open in the body of a method. -/
def methodLevel : List Indentation := [⟨8, 8⟩, ⟨4, 4⟩]

section Blocks

variable {lines : List (List Part)} {levels inner : List Indentation} {indentation : Nat} {rest : List Row}
  {opening kinds : List TokenKind}

theorem Laid.row {parts : List Part} (isLine : IsLine parts)
    (opens : Indentation.arrange ⟨indentation, indentation⟩ levels = some (opening, inner))
    (behind : Laid inner rest kinds) :
    Laid levels (.line indentation parts :: rest) (opening ++ (lineKinds parts ++ kinds)) := by
  have laid := Laid.line isLine opens behind
  rwa [lineKinds, List.append_assoc, List.singleton_append]

/-- Lines of one block, behind other lines of it. -/
theorem Laid.sequence (areLines : ∀ parts ∈ lines, IsLine parts)
    (stays : Indentation.arrange ⟨indentation, indentation⟩ levels = some ([], levels))
    (behind : Laid levels rest kinds) :
    Laid levels (lines.map (Row.line indentation) ++ rest) (lines.flatMap lineKinds ++ kinds) := by
  induction lines with
  | nil => exact behind
  | cons parts lines ih =>
    have later := ih fun other member => areLines other (List.mem_cons_of_mem _ member)
    have laid := Laid.row (areLines parts List.mem_cons_self) stays later
    rwa [List.map_cons, List.cons_append, List.flatMap_cons, List.append_assoc]

/-- Lines that begin a block. -/
theorem Laid.block (areLines : ∀ parts ∈ lines, IsLine parts) (isSome : lines ≠ [])
    (opens : Indentation.arrange ⟨indentation, indentation⟩ levels = some (opening, inner))
    (stays : Indentation.arrange ⟨indentation, indentation⟩ inner = some ([], inner))
    (behind : Laid inner rest kinds) :
    Laid levels (lines.map (Row.line indentation) ++ rest) (opening ++ (lines.flatMap lineKinds ++ kinds)) := by
  obtain ⟨parts, others, rfl⟩ := List.exists_cons_of_ne_nil isSome
  have later := Laid.sequence (fun other member => areLines other (List.mem_cons_of_mem _ member)) stays behind
  have laid := Laid.row (areLines parts List.mem_cons_self) opens later
  rwa [List.map_cons, List.cons_append, List.flatMap_cons, List.append_assoc]

end Blocks

/-- Rows that go on in the body of a class, be it behind a line of the class or behind a method. -/
structure InClass (rows : List Row) (kinds : List TokenKind) : Prop where
  behindLine : Laid classLevel rows kinds
  behindMethod : Laid methodLevel rows (.dedent :: kinds)

/-- Rows that stand in no class, be it at the start or behind one. -/
structure Outside (rows : List Row) (kinds : List TokenKind) : Prop where
  atStart : Laid [] rows kinds
  behindLine : Laid classLevel rows (.dedent :: kinds)
  behindMethod : Laid methodLevel rows (.dedent :: .dedent :: kinds)

section Declarations

variable {rest : List Row} {kinds : List TokenKind}

theorem Outside.nil : Outside [] [] := ⟨.done [], .done classLevel, .done methodLevel⟩

theorem Outside.inClass (outside : Outside rest kinds) : InClass rest (.dedent :: kinds) :=
  ⟨outside.behindLine, outside.behindMethod⟩

theorem InClass.blank (inClass : InClass rest kinds) : InClass (.blank :: rest) kinds :=
  ⟨.blank inClass.behindLine, .blank inClass.behindMethod⟩

def Method.tokenKinds (owner : String) (method : Method) : List TokenKind :=
  lineKinds (method.headLine owner) ++ .indent ::
    ((documentationLines method.description ++ method.bodyLines).flatMap lineKinds ++ [.dedent])

theorem Method.bodyLines_ne_nil (method : Method) : method.bodyLines ≠ [] := by
  unfold bodyLines
  cases method.body <;> exact List.cons_ne_nil _ _

/-- A method that stands where the body of its class begins or goes on. -/
theorem Method.laid {owner : String} {method : Method} (spelled : method.Spelled)
    (owned : Sdl.isName owner.toList = true) {levels : List Indentation} {opening : List TokenKind}
    (opens : Indentation.arrange ⟨4, 4⟩ levels = some (opening, classLevel)) (behind : InClass rest kinds) :
    Laid levels (method.rows owner ++ rest) (opening ++ (method.tokenKinds owner ++ kinds)) := by
  have areLines : ∀ parts ∈ documentationLines method.description ++ method.bodyLines, IsLine parts :=
    List.forall_mem_append.mpr ⟨isLine_documentationLines spelled.description, spelled.bodyLines⟩
  have isSome : documentationLines method.description ++ method.bodyLines ≠ [] := fun none =>
    method.bodyLines_ne_nil (List.append_eq_nil_iff.mp none).2
  have body : Laid classLevel _ _ := Laid.block areLines isSome
    (show Indentation.arrange ⟨8, 8⟩ classLevel = some ([.indent], methodLevel) from rfl) rfl behind.behindMethod
  have laid := Laid.row (spelled.headLine owned) opens body
  simpa [Method.rows, Method.tokenKinds] using laid

theorem Method.inClass {owner : String} {method : Method} (spelled : method.Spelled)
    (owned : Sdl.isName owner.toList = true) (behind : InClass rest kinds) :
    InClass (method.rows owner ++ rest) (method.tokenKinds owner ++ kinds) := by
  have behindLine : Indentation.arrange ⟨4, 4⟩ classLevel = some ([], classLevel) := rfl
  have behindMethod : Indentation.arrange ⟨4, 4⟩ methodLevel = some ([.dedent], classLevel) := rfl
  exact ⟨Method.laid spelled owned behindLine behind, Method.laid spelled owned behindMethod behind⟩

theorem Method.inClass_others {owner : String} {methods : List Method} (spelled : ∀ method ∈ methods, method.Spelled)
    (owned : Sdl.isName owner.toList = true) (behind : InClass rest kinds) :
    InClass ((methods.flatMap fun method => .blank :: method.rows owner) ++ rest)
      (methods.flatMap (Method.tokenKinds owner) ++ kinds) := by
  induction methods with
  | nil => exact behind
  | cons method methods ih =>
    have later := ih fun other member => spelled other (List.mem_cons_of_mem _ member)
    have here := (Method.inClass (spelled method List.mem_cons_self) owned later).blank
    simpa using here

namespace ClassDeclaration

variable {declaration : ClassDeclaration}

def tokenKinds (declaration : ClassDeclaration) : List TokenKind :=
  (declaration.decorators.map decoratorLine ++ [declaration.headLine]).flatMap lineKinds ++ .indent ::
    (declaration.openingLines.flatMap lineKinds ++ declaration.methods.flatMap (Method.tokenKinds declaration.name)
      ++ [.dedent])

theorem methodRows_inClass (spelled : declaration.Spelled) (behind : InClass rest kinds) :
    InClass (declaration.methodRows ++ rest)
      (declaration.methods.flatMap (Method.tokenKinds declaration.name) ++ kinds) := by
  have each := spelled.methods
  unfold methodRows
  cases shape : declaration.methods with
  | nil => exact behind
  | cons first others =>
    rw [shape] at each
    have later := Method.inClass_others (fun method member => each method (List.mem_cons_of_mem _ member)) spelled.name
      behind
    have here := Method.inClass (each first List.mem_cons_self) spelled.name later
    by_cases documented : declaration.description.isSome
    · simpa [documented] using here.blank
    · simpa [documented] using here

/-- The body of a class. Its first line opens it, be that of the class itself or of a method. -/
theorem body_laid (spelled : declaration.Spelled) (behind : Outside rest kinds) :
    Laid [] (declaration.openingLines.map (Row.line 4) ++ (declaration.methodRows ++ rest))
      (.indent :: (declaration.openingLines.flatMap lineKinds
        ++ (declaration.methods.flatMap (Method.tokenKinds declaration.name) ++ .dedent :: kinds))) := by
  have opens : Indentation.arrange ⟨4, 4⟩ [] = some ([.indent], classLevel) := rfl
  by_cases silent : declaration.openingLines = []
  · obtain ⟨undocumented, first, others, shape⟩ : declaration.description.isSome = false ∧
        ∃ first others, declaration.methods = first :: others := by
      unfold openingLines at silent
      split_ifs at silent with bare
      cases described : declaration.description with
      | none =>
        refine ⟨rfl, List.exists_cons_of_ne_nil fun none => bare ?_⟩
        rw [described, none]
        rfl
      | some text =>
        rw [described] at silent
        cases silent
    have each := spelled.methods
    rw [shape] at each
    have later := Method.inClass_others (fun method member => each method (List.mem_cons_of_mem _ member)) spelled.name
      behind.inClass
    have laid := Method.laid (each first List.mem_cons_self) spelled.name opens later
    simpa [silent, methodRows, shape, undocumented] using laid
  · have methods := methodRows_inClass spelled behind.inClass
    exact Laid.block spelled.openingLines silent opens rfl methods.behindLine

theorem outside (spelled : declaration.Spelled) (behind : Outside rest kinds) :
    Outside (declaration.rows ++ rest) (declaration.tokenKinds ++ kinds) := by
  have body := body_laid spelled behind
  have isSome : declaration.decorators.map decoratorLine ++ [declaration.headLine] ≠ [] := by simp
  have heads : ∀ {levels opening}, Indentation.arrange ⟨0, 0⟩ levels = some (opening, []) →
      Laid levels (declaration.rows ++ rest) (opening ++ (declaration.tokenKinds ++ kinds)) := by
    intro levels opening opens
    have laid := (Laid.block spelled.headLines isSome opens rfl body).blank.blank
    simpa [rows, tokenKinds] using laid
  have behindLine : Indentation.arrange ⟨0, 0⟩ classLevel = some ([.dedent], []) := rfl
  have behindMethod : Indentation.arrange ⟨0, 0⟩ methodLevel = some ([.dedent, .dedent], []) := rfl
  have atStart : Indentation.arrange ⟨0, 0⟩ [] = some ([], []) := rfl
  exact ⟨heads atStart, heads behindLine, heads behindMethod⟩

theorem outside_all {declarations : List ClassDeclaration}
    (spelled : ∀ declaration ∈ declarations, declaration.Spelled) :
    Outside (declarations.flatMap rows) (declarations.flatMap tokenKinds) := by
  induction declarations with
  | nil => exact .nil
  | cons declaration declarations ih =>
    have later := ih fun other member => spelled other (List.mem_cons_of_mem _ member)
    exact outside (spelled declaration List.mem_cons_self) later

end ClassDeclaration

def Module.tokenKinds (written : Module) : List TokenKind :=
  lineKinds [.documentation (written.title ++ notice)] ++ lineKinds typing.parts
    ++ written.imports.flatMap (fun item => lineKinds item.parts) ++ written.classes.flatMap ClassDeclaration.tokenKinds

theorem Module.typing_spelled : typing.Spelled where
  source := by decide
  isSome := by decide
  names := by decide
  aliases := by simp [typing]

theorem Module.laid {written : Module} (spelled : written.Spelled) : Laid [] written.rows written.tokenKinds := by
  have stays : Indentation.arrange ⟨0, 0⟩ [] = some ([], []) := rfl
  have classes := ClassDeclaration.outside_all spelled.classes
  have imports := Laid.sequence
    (List.forall_mem_map.mpr fun item member => (spelled.imports item member).isLine) stays classes.atStart
  have titled : IsDocumentable (written.title ++ notice) := by
    have noticed : '\x00' ∉ notice.toList := by decide
    rw [IsDocumentable, String.toList_append, List.mem_append, not_or]
    exact ⟨spelled.title, noticed⟩
  have laid := Laid.row (isLine_documentation titled) stays
    (Laid.blank (Laid.row typing_spelled.isLine stays (Laid.blank imports)))
  simpa [rows, tokenKinds, List.flatMap_map, Function.comp_def] using laid

end Declarations

/-- The text of a module is cut into the tokens of its declarations, and holds no null character. -/
theorem Module.ofText_render {written : Module} (spelled : written.Spelled) :
    '\x00' ∉ written.render.toList ∧ ∃ tokens, Token.ofText written.render.toList = some tokens ∧
      tokens.map Token.kind = written.tokenKinds := by
  have laid := Module.laid spelled
  rw [Module.render_toList spelled.plainTitle fun declaration listed method member =>
    ((spelled.classes declaration listed).methods method member).fieldName]
  exact ⟨laid.null_not_mem, laid.ofText⟩

end SelectionGen.Target
