import SelectionGen.Proofs.ClassTable
import SelectionGen.Proofs.ModuleTokens
import SelectionGen.Target.Package

/-! Modules read back from their text. Each declaration is read from its tokens, whatever tokens stand behind it, so
that a module is read declaration by declaration. What documents a declaration is one token, which nothing else takes
and which is read for itself, so the declarations are the same whatever is documented. -/
namespace SelectionGen

namespace Target

namespace Declared

variable {α β : Type} {rest : List TokenKind} {read : Reader α} {tokens : β → List TokenKind} {value : β → α}
  {items : List β}

theorem behind?_append (front rest : List TokenKind) : behind? front (front ++ rest) = some rest := by
  have isPrefix : front.isPrefixOf (front ++ rest) = true := by simp
  rw [behind?, if_pos isPrefix, List.drop_left]

theorem marked_append (mark : String) (read : Reader α) (rest : List TokenKind) :
    marked mark read ([.mark mark] ++ rest) = read rest := by
  rw [marked, behind?_append]
  rfl

/-- What a reader takes is taken as often as it is there. Where an item ends may depend on what stands behind it, which
is the next item or what follows them all. -/
theorem repeatedly_flatMap_before (ends : List TokenKind → Prop)
    (each : ∀ item ∈ items, ∀ behind, ends behind → read (tokens item ++ behind) = some (value item, behind))
    (begins : ∀ item ∈ items, tokens item ≠ [] ∧ ∀ behind, ends (tokens item ++ behind))
    (stops : read rest = none) (ended : ends rest) :
    repeatedly read (items.flatMap tokens ++ rest) = (items.map value, rest) := by
  have within : ∀ bound : List TokenKind, (items.flatMap tokens).length ≤ bound.length →
      repeatedWithin read bound (items.flatMap tokens ++ rest) = (items.map value, rest) := by
    induction items with
    | nil =>
      intro bound _
      cases bound with
      | nil => rfl
      | cons _ bound => simp [repeatedWithin, stops]
    | cons item items ih =>
      intro bound enough
      obtain ⟨isSome, _⟩ := begins item List.mem_cons_self
      have width := List.length_pos_of_ne_nil isSome
      rw [List.flatMap_cons, List.length_append] at enough
      obtain ⟨step, bound, rfl⟩ : ∃ step others, bound = step :: others := by
        refine List.exists_cons_of_length_pos ?_
        omega
      rw [List.length_cons] at enough
      have later := ih (fun other member => each other (List.mem_cons_of_mem _ member))
        (fun other member => begins other (List.mem_cons_of_mem _ member)) bound (by omega)
      have endsHere : ends (items.flatMap tokens ++ rest) := by
        cases items with
        | nil => exact ended
        | cons next items =>
          rw [List.flatMap_cons, List.append_assoc]
          exact (begins next (by simp)).2 _
      rw [List.flatMap_cons, List.append_assoc, repeatedWithin, each item List.mem_cons_self _ endsHere]
      simp only [later, List.map_cons]
  exact within _ (by simp)

theorem repeatedly_flatMap
    (each : ∀ item ∈ items, ∀ behind, read (tokens item ++ behind) = some (value item, behind))
    (begins : ∀ item ∈ items, tokens item ≠ []) (stops : read rest = none) :
    repeatedly read (items.flatMap tokens ++ rest) = (items.map value, rest) :=
  repeatedly_flatMap_before (fun _ => True) (fun item member behind _ => each item member behind)
    (fun item member => ⟨begins item member, fun _ => trivial⟩) stops trivial

/-- The tokens of documentation on a line of its own. -/
def documentationKinds (description : Option String) : List TokenKind :=
  (documentationLines description).flatMap lineKinds

/-- Documentation is read if no other follows it. -/
theorem documentation_append (description : Option String) (rest : List TokenKind)
    (plain : documentation rest = (none, rest)) :
    documentation (documentationKinds description ++ rest) = (description.map Docstring.asRead, rest) := by
  cases description with
  | none => exact plain
  | some text => rfl

end Declared

open Declared

/-- A declaration as it is read: line ends in its documentation are line feeds, and a blank stands behind a final
quote. -/
def Method.asRead (method : Method) : Method :=
  { method with description := method.description.map Docstring.asRead }

def ClassDeclaration.asRead (declaration : ClassDeclaration) : ClassDeclaration :=
  { declaration with
    description := declaration.description.map Docstring.asRead
    methods := declaration.methods.map Method.asRead }

namespace Method

variable {owner : String} {method : Method}

theorem tokenKinds_of_leaf (body : method.body = .leaf) (rest : List TokenKind) :
    method.tokenKinds owner ++ rest = [.name "def"] ++ (.name method.name :: (leafSignature owner
      ++ (documentationKinds method.description ++ (recording ++ (.literal (.text method.fieldName)
      :: (leafEnding ++ rest)))))) := by
  simp [tokenKinds, headLine, bodyLines, recordLine, body, lineKinds, Part.kinds, Sign.text, leafSignature,
    documentationKinds, recording, leafEnding]

theorem tokenKinds_of_composite {localClass : String} (body : method.body = .composite localClass)
    (rest : List TokenKind) :
    method.tokenKinds owner ++ rest = [.name "def"] ++ (.name method.name :: (compositeOpening
      ++ (.literal (.text localClass) :: (compositeSignature localClass
      ++ (documentationKinds method.description ++ ((creation localClass ++ recording)
      ++ (.literal (.text method.fieldName) :: (compositeEnding ++ rest)))))))) := by
  simp [tokenKinds, headLine, bodyLines, recordLine, body, lineKinds, Part.kinds, Sign.text, compositeOpening,
    compositeSignature, documentationKinds, creation, recording, compositeEnding]

/-- A method is read back from its tokens. -/
theorem read_tokenKinds (owner : String) (method : Method) (rest : List TokenKind) :
    Declared.method owner (method.tokenKinds owner ++ rest) = some (method.asRead, rest) := by
  obtain ⟨methodName, fieldName, body, description⟩ := method
  cases body with
  | leaf =>
    have documented := documentation_append description
      (recording ++ (.literal (.text fieldName) :: (leafEnding ++ rest))) rfl
    rw [tokenKinds_of_leaf rfl]
    simp only [Declared.method, behind?_append, Declared.name, Declared.literal, Option.bind_eq_bind, Option.bind_some,
      documented]
    rfl
  | composite localClass =>
    have documented := documentation_append description
      ((creation localClass ++ recording) ++ (.literal (.text fieldName) :: (compositeEnding ++ rest))) rfl
    have notLeaf : ∀ behind, behind? (leafSignature owner) (compositeOpening ++ behind) = none := fun behind => by
      simp [behind?, leafSignature, compositeOpening]
    rw [tokenKinds_of_composite rfl]
    simp only [Declared.method, behind?_append, Declared.name, Declared.literal, Option.bind_eq_bind, Option.bind_some,
      documented, notLeaf]
    rfl

end Method

/-! Imports. -/

theorem Declared.read_dottedName (source : String) (stops : behind? [.mark "."] rest = none) :
    dottedName ((dottedParts source).flatMap Part.kinds ++ rest) = some (source, rest) := by
  obtain ⟨first, others, split⟩ := List.exists_cons_of_ne_nil (Text.splitAt_ne_nil '.' source.toList)
  have kinds : (dottedParts source).flatMap Part.kinds ++ rest = .name (String.ofList first)
      :: ((others.map String.ofList).flatMap (fun part => [.mark "."] ++ [TokenKind.name part]) ++ rest) := by
    rw [dottedParts, Text.pieces, split]
    simp [Part.kinds, Sign.text, List.flatMap_assoc]
  have read : repeatedly (marked "." name)
      ((others.map String.ofList).flatMap (fun part => [.mark "."] ++ [TokenKind.name part]) ++ rest)
        = ((others.map String.ofList).map id, rest) :=
    repeatedly_flatMap (fun part _ behind => marked_append "." name _) (fun part _ => List.cons_ne_nil _ _)
      (by rw [marked, stops]; rfl)
  have whole : ".".intercalate (String.ofList first :: others.map String.ofList) = source := by
    refine String.toList_inj.mp ?_
    rw [Text.toList_intercalate_cons, ← Text.joined_splitAt '.' source.toList split]
    simp [List.flatMap_map]
  simp only [kinds, dottedName, name, Option.bind_eq_bind, Option.bind_some, read, List.map_id, whole]
  rfl

namespace Import

/-- An entry is read back if no other name is bound behind it. -/
theorem read_entryParts (entry : ImportEntry) (stops : behind? [.name "as"] rest = none) :
    importEntry ((entryParts entry).flatMap Part.kinds ++ rest) = some (entry, rest) := by
  obtain ⟨name, alias?⟩ := entry
  cases alias? with
  | none =>
    have kinds : (entryParts ⟨name, none⟩).flatMap Part.kinds ++ rest = .name name :: rest := rfl
    simp only [kinds, importEntry, Declared.name, Option.bind_eq_bind, Option.bind_some, stops]
    rfl
  | some bound =>
    have kinds : (entryParts ⟨name, some bound⟩).flatMap Part.kinds ++ rest
        = .name name :: ([.name "as"] ++ (.name bound :: rest)) := rfl
    simp only [kinds, importEntry, Declared.name, Option.bind_eq_bind, Option.bind_some, behind?_append]
    rfl

theorem read_parts {item : Import} (isSome : item.entries ≠ []) (rest : List TokenKind) :
    importLine (lineKinds item.parts ++ rest) = some (item, rest) := by
  obtain ⟨source, entries⟩ := item
  obtain ⟨first, others, rfl⟩ := List.exists_cons_of_ne_nil isSome
  have kinds : lineKinds (parts ⟨source, first :: others⟩) ++ rest = [.name "from"]
      ++ ((dottedParts source).flatMap Part.kinds ++ ([.name "import"] ++ ((entryParts first).flatMap Part.kinds
      ++ (others.flatMap (fun entry => [.mark ","] ++ (entryParts entry).flatMap Part.kinds)
      ++ ([.lineEnd] ++ rest))))) := by
    simp [lineKinds, parts, Part.kinds, Sign.text, List.flatMap_assoc]
  have read : repeatedly (marked "," importEntry)
      (others.flatMap (fun entry => [.mark ","] ++ (entryParts entry).flatMap Part.kinds) ++ ([.lineEnd] ++ rest))
        = (others.map id, [.lineEnd] ++ rest) :=
    repeatedly_flatMap_before (fun behind => behind? [.name "as"] behind = none)
      (fun entry _ behind stops => by
        rw [List.append_assoc, marked_append]
        exact read_entryParts entry stops)
      (fun entry _ => ⟨List.cons_ne_nil _ _, fun _ => rfl⟩) rfl rfl
  have stops : behind? [.name "as"] (others.flatMap (fun entry => [.mark ","] ++ (entryParts entry).flatMap Part.kinds)
      ++ ([.lineEnd] ++ rest)) = none := by
    cases others <;> rfl
  simp only [kinds, importLine, behind?_append, Option.bind_eq_bind, Option.bind_some,
    read_dottedName source (show behind? [.mark "."] ([.name "import"] ++ _) = none from rfl),
    read_entryParts first stops, read, List.map_id]
  rfl

end Import

/-! Classes. -/

namespace ClassDeclaration

/-- The tokens at the end of a class. -/
def endingKinds (declaration : ClassDeclaration) : List TokenKind :=
  if declaration.description.isNone && declaration.methods.isEmpty then [.name "pass", .lineEnd, .dedent] else [.dedent]

theorem read_decoratorLine (name : String) (rest : List TokenKind) :
    decorator (lineKinds (decoratorLine name) ++ rest) = some (name, rest) := rfl

theorem tokenKinds_append (declaration : ClassDeclaration) (rest : List TokenKind) :
    declaration.tokenKinds ++ rest = declaration.decorators.flatMap (fun name => lineKinds (decoratorLine name))
      ++ ([.name "class"] ++ (.name declaration.name :: ([.mark "("] ++ (.name declaration.base
      :: ([.mark ")", .mark ":", .lineEnd, .indent] ++ (documentationKinds declaration.description
      ++ (declaration.methods.flatMap (Method.tokenKinds declaration.name)
      ++ (declaration.endingKinds ++ rest)))))))) := by
  obtain ⟨className, base, decorators, description, methods⟩ := declaration
  cases description <;> cases methods <;>
    simp [tokenKinds, headLine, openingLines, endingKinds, documentationKinds, documentationLines, lineKinds,
      Part.kinds, Sign.text, List.flatMap_map]

theorem endingKinds_cases (declaration : ClassDeclaration) :
    declaration.endingKinds = [.name "pass", .lineEnd, .dedent] ∨ declaration.endingKinds = [.dedent] := by
  unfold endingKinds
  split_ifs
  · exact .inl rfl
  · exact .inr rfl

/-- A class is read back from its tokens. -/
theorem read_tokenKinds (written : ClassDeclaration) (rest : List TokenKind) :
    declaration (written.tokenKinds ++ rest) = some (written.asRead, rest) := by
  have decorators : ∀ behind, repeatedly decorator (written.decorators.flatMap
      (fun name => lineKinds (decoratorLine name)) ++ ([.name "class"] ++ behind))
        = (written.decorators.map id, [.name "class"] ++ behind) := fun behind =>
    repeatedly_flatMap (fun name _ behind => read_decoratorLine name behind) (fun name _ => List.cons_ne_nil _ _) rfl
  have methods : repeatedly (method written.name) (written.methods.flatMap (Method.tokenKinds written.name)
      ++ (written.endingKinds ++ rest)) = (written.methods.map Method.asRead, written.endingKinds ++ rest) := by
    refine repeatedly_flatMap (fun method _ behind => method.read_tokenKinds written.name behind)
      (fun method _ => List.cons_ne_nil _ _) ?_
    obtain ending | ending := written.endingKinds_cases <;> rw [ending] <;> rfl
  have undocumented : documentation (written.methods.flatMap (Method.tokenKinds written.name)
      ++ (written.endingKinds ++ rest))
        = (none, written.methods.flatMap (Method.tokenKinds written.name) ++ (written.endingKinds ++ rest)) := by
    cases written.methods with
    | nil => obtain ending | ending := written.endingKinds_cases <;> rw [ending] <;> rfl
    | cons first others => rfl
  have documented := documentation_append written.description _ undocumented
  have ending : (if (written.description.map Docstring.asRead).isNone && (written.methods.map Method.asRead).isEmpty
      then [.name "pass", .lineEnd, .dedent] else [.dedent]) = written.endingKinds := by
    rw [Option.isNone_map, List.isEmpty_map]
    rfl
  rw [tokenKinds_append]
  simp only [declaration, decorators, behind?_append, Declared.name, Option.bind_eq_bind, Option.bind_some, documented,
    methods, ending, List.map_id]
  rfl

end ClassDeclaration

/-! Modules. -/

namespace Module

/-- A module as it is read: behind its title comes what it says about itself, and it imports what all modules do. -/
def asRead (written : Module) : Module where
  title := Docstring.asRead (written.title ++ notice)
  imports := typing :: written.imports
  classes := written.classes.map ClassDeclaration.asRead

theorem read_tokenKinds {written : Module} (isSome : ∀ item ∈ written.imports, item.entries ≠ []) :
    declarations written.tokenKinds = some written.asRead := by
  have kinds : written.tokenKinds = .literal (.text (Docstring.asRead (written.title ++ notice))) :: ([.lineEnd]
      ++ ((typing :: written.imports).flatMap (fun item => lineKinds item.parts)
      ++ written.classes.flatMap ClassDeclaration.tokenKinds)) := by
    simp [tokenKinds, lineKinds, Part.kinds]
  have imports : repeatedly importLine ((typing :: written.imports).flatMap (fun item => lineKinds item.parts)
      ++ written.classes.flatMap ClassDeclaration.tokenKinds)
        = ((typing :: written.imports).map id, written.classes.flatMap ClassDeclaration.tokenKinds) := by
    refine repeatedly_flatMap (fun item member behind => Import.read_parts ?_ behind)
      (fun item _ => List.cons_ne_nil _ _) ?_
    · rcases List.mem_cons.mp member with rfl | later
      · exact Module.typing_spelled.isSome
      · exact isSome item later
    · cases written.classes with
      | nil => rfl
      | cons first others =>
        obtain ⟨className, base, decorators, description, methods⟩ := first
        cases decorators <;> rfl
  have classes : repeatedly declaration (written.classes.flatMap ClassDeclaration.tokenKinds)
      = (written.classes.map ClassDeclaration.asRead, []) := by
    have read : repeatedly declaration (written.classes.flatMap ClassDeclaration.tokenKinds ++ [])
        = (written.classes.map ClassDeclaration.asRead, []) :=
      repeatedly_flatMap (fun item _ behind => item.read_tokenKinds behind)
        (fun item _ => by simp [ClassDeclaration.tokenKinds]) rfl
    rwa [List.append_nil] at read
  simp only [kinds, declarations, literal, behind?_append, Option.bind_eq_bind, Option.bind_some, imports, classes,
    List.map_id]
  rfl

/-- A module is read back from its text, whatever it documents. -/
theorem ofText_render_eq {written : Module} (spelled : written.Spelled) :
    Module.ofText? written.render = some written.asRead := by
  obtain ⟨noNull, tokens, cut, kinds⟩ := ofText_render spelled
  have read := read_tokenKinds fun item member => (spelled.imports item member).isSome
  rw [ofText?, if_neg (by simpa using noNull), cut, Option.bind_some, kinds, read]

end Module

/-! The declarations without what documents them. -/

def Method.undocumented (method : Method) : Method := { method with description := none }

def ClassDeclaration.undocumented (declaration : ClassDeclaration) : ClassDeclaration :=
  { declaration with description := none, methods := declaration.methods.map Method.undocumented }

def Module.undocumented (written : Module) : Module :=
  { written with classes := written.classes.map ClassDeclaration.undocumented }

end Target

/-! Projections that can be written in code, and projections without what documents them. Words that the language keeps
for itself are read like other names, so they are not told apart here. -/

open Target

@[mk_iff] structure ClassRef.Spelled (reference : ClassRef) : Prop where
  name : Sdl.isName reference.name.toList = true
  package : Settings.isDottedName reference.package.toList = true

instance (reference : ClassRef) : Decidable reference.Spelled :=
  decidable_of_iff' _ (ClassRef.spelled_iff reference)

@[mk_iff] structure Accessor.Spelled (accessor : Accessor) : Prop where
  name : Sdl.isName accessor.name.toList = true
  fieldName : Sdl.isName accessor.fieldName.toList = true
  sub : ∀ sub ∈ accessor.selector.sub?, sub.Spelled
  description : ∀ text ∈ accessor.description, IsDocumentable text

instance (accessor : Accessor) : Decidable accessor.Spelled :=
  decidable_of_iff' _ (Accessor.spelled_iff accessor)

@[mk_iff] structure Projection.Spelled (projection : Projection) : Prop where
  name : Sdl.isName projection.name.toList = true
  baseClass : projection.baseClass.Spelled
  decorators : ∀ reference ∈ projection.decorators, reference.Spelled
  accessors : ∀ accessor ∈ projection.accessors, accessor.Spelled
  description : ∀ text ∈ projection.description, IsDocumentable text

instance (projection : Projection) : Decidable projection.Spelled :=
  decidable_of_iff' _ (Projection.spelled_iff projection)

def Accessor.undocumented (accessor : Accessor) : Accessor := { accessor with description := none }

def Projection.undocumented (projection : Projection) : Projection :=
  { projection with description := none, accessors := projection.accessors.map Accessor.undocumented }

section Names

variable {package : String} {front text : List Char}

theorem Sdl.isNameStart_toUpper {c : Char} (start : isNameStart c = true) : isNameStart c.toUpper = true := by
  have continues : isNameContinue c = true := by rw [isNameContinue, start, Bool.true_or]
  have bounds := bounds_of_isNameContinue continues
  have each : ∀ number < 123, isNameStart (Char.ofNat number) = true →
      isNameStart (Char.ofNat number).toUpper = true := by decide
  have held := each c.toNat (by omega)
  rw [Char.ofNat_toNat] at held
  exact held start

theorem Sdl.isName_append (named : isName front = true) (continues : ∀ c ∈ text, isNameContinue c = true) :
    isName (front ++ text) = true := by
  obtain ⟨c, rest, rfl, start, others⟩ := exists_of_isName named
  rw [List.cons_append, isName_cons, start, Bool.true_and, List.all_append, Bool.and_eq_true]
  exact ⟨List.all_eq_true.mpr others, List.all_eq_true.mpr continues⟩

/-- A name with a capital is a name. -/
theorem isName_capitalized {name : String} (named : Sdl.isName name.toList = true) :
    Sdl.isName (Text.capitalized name).toList = true := by
  obtain ⟨c, rest, shape, start, others⟩ := exists_of_isName named
  rw [Text.capitalized, shape]
  simp only [Projection.upperCase_of_start start, String.toList_ofList, List.singleton_append, isName_cons,
    Sdl.isNameStart_toUpper start, Bool.true_and]
  exact List.all_eq_true.mpr others

theorem Settings.isDottedName_append (first second : List Char) :
    isDottedName (first ++ '.' :: second) = (isDottedName first && isDottedName second) := by
  rw [isDottedName, Text.splitAt_append, List.all_append]
  rfl

/-- The last part of a package is a name. -/
theorem isName_lastPart (dotted : Settings.isDottedName package.toList = true) :
    Sdl.isName (ModuleSource.lastPart package).toList = true := by
  have isSome : Text.splitAt '.' package.toList ≠ [] := Text.splitAt_ne_nil '.' package.toList
  have named := List.all_eq_true.mp dotted _ (List.getLast_mem isSome)
  have last : ModuleSource.lastPart package = String.ofList ((Text.splitAt '.' package.toList).getLast isSome) := by
    rw [ModuleSource.lastPart, Text.pieces, List.getLastD_eq_getLast?, List.getLast?_map,
      List.getLast?_eq_some_getLast isSome]
    rfl
  rwa [last, String.toList_ofList]

end Names

namespace Target.ModuleSource

variable {source : ModuleSource} {reference : ClassRef}

/-- What can be written of a module: its title as it is, and its projections. -/
structure Spelled (source : ModuleSource) : Prop where
  title : IsDocumentable source.title
  plainTitle : IsPlain source.title
  projections : ∀ projection ∈ source.projections, projection.Spelled

def undocumented (source : ModuleSource) : ModuleSource :=
  { source with projections := source.projections.map Projection.undocumented }

/-- Another name that a class is imported under is a name. -/
theorem isName_alias (spelled : reference.Spelled) :
    Sdl.isName (Text.capitalized (lastPart reference.package) ++ reference.name).toList = true := by
  rw [String.toList_append]
  exact Sdl.isName_append (isName_capitalized (isName_lastPart spelled.package)) (continues_of_isName spelled.name)

theorem isName_localName (spelled : reference.Spelled) : Sdl.isName (source.localName reference).toList = true := by
  unfold localName importOf?
  split_ifs
  · exact spelled.name
  · exact isName_alias spelled
  · exact spelled.name

theorem isDottedName_moduleOf (spelled : reference.Spelled) :
    Settings.isDottedName (moduleOf reference).toList = true := by
  have parts : (moduleOf reference).toList = reference.package.toList ++ '.' :: projectionsModule.toList := by
    simp [moduleOf]
  rw [parts, Settings.isDottedName_append, Bool.and_eq_true]
  exact ⟨spelled.package, by decide⟩

/-- An import has entries, all of which are imported from its module. -/
theorem import_entries {item : Import} (member : item ∈ source.imports) :
    item.entries ≠ [] ∧ ∀ entry ∈ item.entries, (item.source, entry) ∈ source.importPairs := by
  obtain ⟨name, listed, rfl⟩ := List.mem_map.mp member
  rw [List.mem_mergeSort, List.mem_eraseDups] at listed
  obtain ⟨⟨name, entry⟩, inPairs, rfl⟩ := List.mem_map.mp listed
  have found : entry ∈ ((source.importPairs.filter fun pair => pair.1 == name).map Prod.snd).eraseDups :=
    List.mem_eraseDups.mpr (List.mem_map_of_mem (List.mem_filter.mpr ⟨inPairs, beq_self_eq_true name⟩))
  refine ⟨List.ne_nil_of_mem found, fun other inItem => ?_⟩
  obtain ⟨⟨_, _⟩, kept, rfl⟩ := List.mem_map.mp (List.mem_eraseDups.mp inItem)
  obtain ⟨alsoIn, same⟩ := List.mem_filter.mp kept
  obtain rfl := beq_iff_eq.mp same
  exact alsoIn

namespace Spelled

theorem usedClass (spelled : source.Spelled) (used : reference ∈ source.usedClasses) : reference.Spelled := by
  obtain ⟨projection, member, accessor, listed, goesOn⟩ := mem_usedClasses.mp used
  have accessed := (spelled.projections projection member).accessors accessor listed
  exact accessed.sub reference (by rw [goesOn]; rfl)

theorem importPair (spelled : source.Spelled) {name : String} {entry : ImportEntry}
    (member : (name, entry) ∈ source.importPairs) :
    Settings.isDottedName name.toList = true ∧ Sdl.isName entry.name.toList = true ∧
      ∀ bound ∈ entry.alias?, Sdl.isName bound.toList = true := by
  rcases mem_importPairs.mp member with
    ⟨projection, listed, reference, used, rfl, rfl⟩ | ⟨reference, used, imported, rfl⟩
  · have projected := spelled.projections projection listed
    have known : reference.Spelled := by
      rcases List.mem_cons.mp used with rfl | decorates
      · exact projected.baseClass
      · exact projected.decorators reference decorates
    exact ⟨known.package, known.name, by simp⟩
  · have known := spelled.usedClass used
    refine ⟨isDottedName_moduleOf known, ?_⟩
    unfold importOf? at imported
    split_ifs at imported <;> cases imported
    · refine ⟨known.name, ?_⟩
      rintro _ ⟨⟩
      exact isName_alias known
    · exact ⟨known.name, by simp⟩

theorem imports (spelled : source.Spelled) : ∀ item ∈ source.imports, item.Spelled := by
  intro item member
  obtain ⟨isSome, each⟩ := import_entries member
  obtain ⟨entry, inItem⟩ := List.exists_mem_of_ne_nil _ isSome
  exact ⟨(spelled.importPair (each entry inItem)).1, isSome,
    fun other listed => (spelled.importPair (each other listed)).2.1,
    fun other listed => (spelled.importPair (each other listed)).2.2⟩

theorem documentation {description : Option String} (documents : ∀ text ∈ description, IsDocumentable text) :
    ∀ text ∈ ModuleSource.documentation description, IsDocumentable text := fun text kept =>
  documents text (Option.mem_filter_iff.mp kept).1

theorem toModule (spelled : source.Spelled) : source.toModule.Spelled where
  title := spelled.title
  plainTitle := spelled.plainTitle
  imports := spelled.imports
  classes := List.forall_mem_map.mpr fun projection member => by
    have projected := spelled.projections projection member
    refine ⟨projected.name, projected.baseClass.name, List.forall_mem_map.mpr fun reference decorates =>
      (projected.decorators reference decorates).name, List.forall_mem_map.mpr fun accessor listed => ?_,
      documentation projected.description⟩
    have accessed := projected.accessors accessor listed
    refine ⟨accessed.name, accessed.fieldName, fun localClass goesOn => ?_, documentation accessed.description⟩
    cases selector : accessor.selector with
    | leaf => simp [method, selector] at goesOn
    | composite sub =>
      obtain rfl : source.localName sub = localClass := by simpa [method, selector] using goesOn
      exact isName_localName (accessed.sub sub (by rw [selector]; rfl))

theorem undocumented (spelled : source.Spelled) : source.undocumented.Spelled where
  title := spelled.title
  plainTitle := spelled.plainTitle
  projections := List.forall_mem_map.mpr fun projection member => by
    have projected := spelled.projections projection member
    refine ⟨projected.name, projected.baseClass, projected.decorators,
      List.forall_mem_map.mpr fun accessor listed => ?_, by simp [Projection.undocumented]⟩
    have accessed := projected.accessors accessor listed
    exact ⟨accessed.name, accessed.fieldName, accessed.sub, by simp [Accessor.undocumented]⟩

end Spelled

/-- What documents a class has no part in how modules know classes. -/
theorem importOf_undocumented (source : ModuleSource) : source.undocumented.importOf? = source.importOf? := by
  funext reference
  have defines : source.undocumented.definesName reference.name = source.definesName reference.name := by
    rw [definesName, undocumented, List.any_map]
    rfl
  rw [importOf?, importOf?, defines]
  rfl

theorem localName_undocumented (source : ModuleSource) : source.undocumented.localName = source.localName := by
  funext reference
  rw [localName, localName, importOf_undocumented]

theorem imports_undocumented (source : ModuleSource) : source.undocumented.imports = source.imports := by
  have referenced (projection : Projection) :
      projection.undocumented.referencedClasses = projection.referencedClasses := by
    rw [Projection.referencedClasses, Projection.undocumented, List.filterMap_map]
    rfl
  have pairs : source.undocumented.importPairs = source.importPairs := by
    rw [importPairs, importPairs, importOf_undocumented, undocumented, List.flatMap_map, List.flatMap_map]
    simp only [referenced]
    rfl
  rw [ModuleSource.imports, ModuleSource.imports, pairs]

/-- Without what documents it, a module reads like the one that nothing was documented in. -/
theorem asRead_undocumented (source : ModuleSource) :
    source.toModule.asRead.undocumented = source.undocumented.toModule.asRead := by
  have methods (accessor : Accessor) : (source.method accessor).asRead.undocumented
      = (source.undocumented.method accessor.undocumented).asRead := by
    rw [method, method, localName_undocumented]
    rfl
  have classes (projection : Projection) : (source.classDeclaration projection).asRead.undocumented
      = (source.undocumented.classDeclaration projection.undocumented).asRead := by
    simp only [classDeclaration, ClassDeclaration.asRead, ClassDeclaration.undocumented, Projection.undocumented,
      List.map_map]
    congr 1
    exact List.map_congr_left fun accessor _ => methods accessor
  simp only [toModule, Module.asRead, Module.undocumented, List.map_map, imports_undocumented]
  congr 1
  rw [undocumented, List.map_map]
  exact List.map_congr_left fun projection _ => classes projection

/-- A class without what documents it, as the projection has it. -/
theorem classDeclaration_undocumented (source : ModuleSource) (projection : Projection) :
    (source.classDeclaration projection).asRead.undocumented =
      { name := projection.name
        base := projection.baseClass.name
        decorators := projection.decorators.map ClassRef.name
        description := none
        methods := projection.accessors.map fun accessor =>
          { name := accessor.name
            fieldName := accessor.fieldName
            body := match accessor.selector with
              | .leaf => .leaf
              | .composite sub => .composite (source.localName sub)
            description := none } } := by
  simp only [classDeclaration, ClassDeclaration.asRead, ClassDeclaration.undocumented, List.map_map]
  rfl

/-- The modules of a run have titles that can be written as they are. -/
theorem titled_of_mem {api : Api} {settings : Settings} (member : source ∈ moduleSources api settings) :
    IsDocumentable source.title ∧ IsPlain source.title := by
  have titled : source.title = "Generated GraphQL projections." ∨
      source.title = "Generated GraphQL root query projections." := by
    rcases List.mem_cons.mp (List.mem_filter.mp member).1 with rfl | isQueries
    · exact .inl rfl
    · exact .inr (by rw [List.mem_singleton.mp isQueries])
  obtain same | same := titled <;> rw [same] <;> exact ⟨by decide, by decide⟩

theorem spelled_of_mem {api : Api} {settings : Settings} (member : source ∈ moduleSources api settings)
    (spelled : ∀ projection ∈ source.projections, projection.Spelled) : source.Spelled :=
  ⟨(titled_of_mem member).1, (titled_of_mem member).2, spelled⟩

/-- **Modules read back to their projections.** Whatever the projections of a module document, quotes, backslashes, line
ends and lines that look like code included, the text of the module is one of declarations and nothing else: the imports
and then one class for each projection, in their order, with its decorators and its base class and one method for each
accessor in their order. A method has the name of its accessor, records its field, and is a leaf exactly where the
accessor is one; otherwise it goes on in the class by the name that the module knows it under. What is documented has
no part in this: it can be left out, and the same is read. -/
theorem text_reads_back {api : Api} {settings : Settings} {source : ModuleSource}
    (member : source ∈ moduleSources api settings)
    (spelled : ∀ projection ∈ source.projections, projection.Spelled) :
    ∃ found, Module.ofText? source.text = some found ∧
      found.imports = Module.typing :: source.imports ∧
      (found.classes.map ClassDeclaration.undocumented = source.projections.map fun projection =>
        { name := projection.name
          base := projection.baseClass.name
          decorators := projection.decorators.map ClassRef.name
          description := none
          methods := projection.accessors.map fun accessor =>
            { name := accessor.name
              fieldName := accessor.fieldName
              body := match accessor.selector with
                | .leaf => .leaf
                | .composite sub => .composite (source.localName sub)
              description := none } }) ∧
      Module.ofText? (source.undocumented.text) = some found.undocumented := by
  have whole := spelled_of_mem member spelled
  refine ⟨source.toModule.asRead, Module.ofText_render_eq whole.toModule, rfl, ?_, ?_⟩
  · rw [Module.asRead, toModule, List.map_map, List.map_map]
    exact List.map_congr_left fun projection _ => source.classDeclaration_undocumented projection
  · rw [asRead_undocumented]
    exact Module.ofText_render_eq whole.undocumented.toModule

end Target.ModuleSource

/-! Two entry points whose descriptions try to get out of their literals. One of them has nothing to select, and the
other goes on in a class that is called like itself. -/
namespace Projection.Escaping

open Target

def viewer : ClassRef := ⟨"generated.client", "QueryProjection"⟩

def api : Api where
  queryTypes :=
    [{ classRef := ⟨"generated.queries", "QueryProjection"⟩
       sourceType := "Query"
       description := some "\"\"\"\n    def stolen(self): pass\n    \"\"\""
       accessors :=
         [{ name := "class_", fieldName := "class", selector := .leaf, description := some "Ends with \\\r\nand \"" },
          { name := "viewer", fieldName := "viewer", selector := .composite viewer
            description := some "\\\"\"\"\r\nclass Stolen:\n    pass" }] },
     { classRef := ⟨"generated.queries", "EmptyProjection"⟩, sourceType := "Empty" }]

def entryModule : ModuleSource :=
  ⟨"generated.queries", queriesModule, "Generated GraphQL root query projections.", api.queryTypes⟩

theorem spelled : ∀ projection ∈ entryModule.projections, projection.Spelled := by decide

theorem entryModule_reads_back :
    ∃ found, Module.ofText? entryModule.text = some found ∧
      found.imports = Module.typing :: entryModule.imports ∧
      found.classes.map ClassDeclaration.undocumented =
        [{ name := "QueryProjection", base := "BaseProjectionNode", decorators := ["dsl_context"], description := none
           methods :=
             [⟨"class_", "class", .leaf, none⟩, ⟨"viewer", "viewer", .composite "ClientQueryProjection", none⟩] },
         { name := "EmptyProjection", base := "BaseProjectionNode", decorators := ["dsl_context"], description := none
           methods := [] }] ∧
      Module.ofText? (entryModule.undocumented.text) = some found.undocumented := by
  have member : entryModule ∈ moduleSources api {} :=
    List.mem_filter.mpr ⟨List.mem_cons_of_mem _ List.mem_cons_self, by decide⟩
  obtain ⟨found, read, imports, classes, undocumented⟩ := ModuleSource.text_reads_back member spelled
  refine ⟨found, read, imports, ?_, undocumented⟩
  rw [classes]
  decide

end Projection.Escaping

end SelectionGen
