import SelectionGen.Proofs.Correspondence
import SelectionGen.Proofs.Merging
import SelectionGen.Proofs.Runs

/-! The order of definitions. Lookups take the first entry that fits, so the order of a document could decide
which that is. It does not where each type has one definition: whatever a lookup admits is then that
definition, wherever it stands. What remains of the order is that among the extensions of one object,
whose fields are merged in turn, and that among the schema entries, of which the first names the root. -/
namespace SelectionGen.Schema

open Sdl

/-- The name of the type that an entry defines, if it defines one. -/
def definedName? (entry : Definition) : Option Name :=
  match entry.type? with
  | some found => if found.isExtension then none else some found.name
  | none => none

/-- Whether an entry defines or extends the schema. -/
def isSchemaEntry : Definition → Bool
  | .schema .. => true
  | _ => false

/-- A document that gives a name at most one meaning: each type is defined at most once, and no extension of
a scalar has the name of a type that is defined as no scalar. -/
structure Unambiguous (document : Document) : Prop where
  once : (document.filterMap definedName?).Nodup
  scalars : ∀ definition extension, .type definition ∈ document → .type extension ∈ document →
    definition.isExtension = false → definition.kind ≠ .scalar →
    extension.isExtension = true → extension.kind = .scalar → definition.name ≠ extension.name

/-- Documents with the same entries, where extensions of one object stand in the same order in both, and so
do schema entries. -/
structure Rearranged (first second : Document) : Prop where
  perm : first.Perm second
  extensions : ∀ name, first.filter (extendsObject name) = second.filter (extendsObject name)
  schemas : first.filter isSchemaEntry = second.filter isSchemaEntry

variable {document first second : Document} {definition other : TypeDefinition} {position place : Nat}

namespace Unambiguous

theorem same_position (unambiguous : Unambiguous document)
    (stored : typeAt? document position = some definition)
    (alsoStored : typeAt? document place = some other) (defines : definition.isExtension = false)
    (alsoDefines : other.isExtension = false) (named : definition.name = other.name) :
    position = place := by
  have apart := List.pairwise_iff_getElem.mp (List.pairwise_filterMap.mp unambiguous.once)
  obtain ⟨bound, entry⟩ := List.getElem?_eq_some_iff.mp (typeAt_eq_some_iff.mp stored)
  obtain ⟨alsoBound, alsoEntry⟩ := List.getElem?_eq_some_iff.mp (typeAt_eq_some_iff.mp alsoStored)
  have name : definedName? document[position] = some definition.name := by
    simp [entry, definedName?, Definition.type?, defines]
  have alsoName : definedName? document[place] = some other.name := by
    simp [alsoEntry, definedName?, Definition.type?, alsoDefines]
  rcases Nat.lt_trichotomy position place with before | same | behind
  · exact absurd named (apart _ _ bound alsoBound before _ name _ alsoName)
  · exact same
  · exact absurd named.symm (apart _ _ alsoBound bound behind _ alsoName _ name)

theorem same_definition (unambiguous : Unambiguous document) (member : .type definition ∈ document)
    (alsoMember : .type other ∈ document) (defines : definition.isExtension = false)
    (alsoDefines : other.isExtension = false) (named : definition.name = other.name) :
    definition = other := by
  obtain ⟨position, entry⟩ := List.mem_iff_getElem?.mp member
  obtain ⟨place, alsoEntry⟩ := List.mem_iff_getElem?.mp alsoMember
  have stored := typeAt_eq_some_iff.mpr entry
  have alsoStored := typeAt_eq_some_iff.mpr alsoEntry
  obtain rfl := unambiguous.same_position stored alsoStored defines alsoDefines named
  exact Option.some.inj (stored.symm.trans alsoStored)

/-- A lookup that does not admit extensions finds the definition of its name, wherever it stands. -/
theorem isFirst (unambiguous : Unambiguous document)
    (stored : typeAt? document position = some definition) (defines : definition.isExtension = false)
    (nonScalar : definition.kind ≠ .scalar) {scope : LookupScope}
    (excludes : scope.excludeExtensions = true) :
    IsFirst document (Admitted definition.name scope) (position, definition) where
  stored := stored
  fits := ⟨rfl, by cases kind : definition.kind <;> simp_all [LookupScope.admits]⟩
  first := by
    rintro place before other storedOther ⟨named, admitted⟩
    cases extending : other.isExtension with
    | false =>
      exact Nat.ne_of_lt before
        (unambiguous.same_position storedOther stored extending defines named)
    | true =>
      have scalar : other.kind = .scalar := by
        cases kind : other.kind <;> simp_all [LookupScope.admits]
      exact unambiguous.scalars definition other
        (List.mem_of_getElem? (typeAt_eq_some_iff.mp stored))
        (List.mem_of_getElem? (typeAt_eq_some_iff.mp storedOther)) defines nonScalar extending scalar
        named.symm

theorem perm (unambiguous : Unambiguous first) (perm : first.Perm second) : Unambiguous second where
  once := (perm.filterMap definedName?).nodup_iff.mp unambiguous.once
  scalars := fun definition extension member alsoMember =>
    unambiguous.scalars definition extension (perm.mem_iff.mpr member) (perm.mem_iff.mpr alsoMember)

end Unambiguous

/-- What comes of entries that give nothing need not be gone through. -/
theorem flatMap_filter_of_support {α β : Type} {keeps : α → Bool} {gives : α → List β}
    (nothing : ∀ item, keeps item = false → gives item = []) (items : List α) :
    (items.filter keeps).flatMap gives = items.flatMap gives := by
  induction items with
  | nil => rfl
  | cons item rest ih =>
    cases kept : keeps item with
    | true => rw [List.filter_cons_of_pos kept, List.flatMap_cons, List.flatMap_cons, ih]
    | false => simp [kept, ih, nothing item kept]

namespace Rearranged

theorem extendedFields_eq (rearranged : Rearranged first second) (name : Name) :
    extendedFields first name = extendedFields second name := by
  rw [extendedFields_eq_flatMap_filter, extendedFields_eq_flatMap_filter, rearranged.extensions]

theorem rootName_eq (rearranged : Rearranged first second) (operation : Operation) :
    rootName first operation = rootName second operation := by
  have nothing : ∀ entry, isSchemaEntry entry = false → entry.roots = [] := by
    intro entry isOther
    cases entry with
    | schema => cases isOther
    | type | directive | operation | fragment => rfl
  rw [rootName, rootName, ← flatMap_filter_of_support nothing first, rearranged.schemas,
    flatMap_filter_of_support nothing]

end Rearranged

/-- The first extension of an object type comes first among all of them. -/
theorem head_of_isFirst {name : Name} {found : Nat × TypeDefinition}
    (isFirst : IsFirst document (ObjectNamed name true) found) :
    (document.filter (extendsObject name)).head? = some (.type found.2) := by
  obtain ⟨front, back, rfl, -, missed⟩ := isFirst.split
  have before : front.filter (extendsObject name) = [] := by
    refine List.filter_eq_nil_iff.mpr fun entry member => ?_
    cases entry with
    | type other => simpa [extendsObject, Definition.type?] using missed other member
    | schema | directive | operation | fragment => simp [extendsObject, Definition.type?]
  have here : extendsObject name (.type found.2) = true := by
    simpa [extendsObject, Definition.type?] using isFirst.fits
  rw [List.filter_append, before, List.nil_append, List.filter_cons_of_pos here, List.head?_cons]

/-- Entries of two documents that a lookup of objects finds for one name. -/
structure FoundAlike (first second : Document) (name : Name) (isExtension : Bool)
    (found again : Nat × TypeDefinition) : Prop where
  isFirst : IsFirst first (ObjectNamed name isExtension) found
  isFirstAgain : IsFirst second (ObjectNamed name isExtension) again
  same : found.2 = again.2

/-- An object, or the first of its extensions, is found in both documents or in none. -/
theorem Rearranged.findObject (rearranged : Rearranged first second)
    (unambiguous : Unambiguous first) (name : Name) (isExtension : Bool) :
    Option.Rel (FoundAlike first second name isExtension) (findObject? first name isExtension)
      (findObject? second name isExtension) := by
  cases looked : findObject? first name isExtension with
  | none =>
    have missing : findObject? second name isExtension = none :=
      findObject_eq_none_iff.mpr fun definition member =>
        findObject_eq_none_iff.mp looked definition (rearranged.perm.mem_iff.mpr member)
    rw [missing]
    exact .none
  | some found =>
    have isFirst := findObject_eq_some_iff.mp looked
    cases lookedAgain : findObject? second name isExtension with
    | none =>
      exact absurd isFirst.fits
        (findObject_eq_none_iff.mp lookedAgain _ (rearranged.perm.mem_iff.mp isFirst.member))
    | some again =>
      have isFirstAgain := findObject_eq_some_iff.mp lookedAgain
      refine .some ⟨isFirst, isFirstAgain, ?_⟩
      cases isExtension with
      | false =>
        exact unambiguous.same_definition isFirst.member
          (rearranged.perm.mem_iff.mpr isFirstAgain.member) isFirst.fits.2.2 isFirstAgain.fits.2.2
          (isFirst.fits.2.1.trans isFirstAgain.fits.2.1.symm)
      | true =>
        have heads := head_of_isFirst isFirst
        rw [rearranged.extensions, head_of_isFirst isFirstAgain] at heads
        exact (Definition.type.inj (Option.some.inj heads)).symm

/-- An object, or the first of its extensions, is found in both documents where their types say the same. -/
theorem foundAlike_of_types {name : Name} {isExtension : Bool}
    (same : ((types first).find? fun definition => decide (ObjectNamed name isExtension definition))
      = (types second).find? fun definition => decide (ObjectNamed name isExtension definition)) :
    Option.Rel (FoundAlike first second name isExtension) (findObject? first name isExtension)
      (findObject? second name isExtension) := by
  rw [← findObject_types, ← findObject_types] at same
  cases found : findObject? first name isExtension with
  | none =>
    rw [found, Option.map_none] at same
    rw [Option.map_eq_none_iff.mp same.symm]
    exact .none
  | some root =>
    rw [found, Option.map_some] at same
    obtain ⟨again, foundAgain, alike⟩ := Option.map_eq_some_iff.mp same.symm
    rw [foundAgain]
    exact .some ⟨findObject_eq_some_iff.mp found, findObject_eq_some_iff.mp foundAgain, alike.symm⟩

/-- Where objects of the name of a root are found alike, so is the root. -/
theorem findRoot_alike {operation : Operation}
    (named : rootName first operation = rootName second operation)
    (objects : ∀ isExtension, Option.Rel
      (FoundAlike first second (rootName first operation) isExtension)
      (findObject? first (rootName first operation) isExtension)
      (findObject? second (rootName first operation) isExtension)) :
    Option.Rel (fun root again => ∃ isExtension,
        FoundAlike first second (rootName first operation) isExtension root again)
      (findRoot? first operation) (findRoot? second operation) := by
  simp only [findRoot?, ← named]
  generalize rootName first operation = name at objects
  have defined := objects false
  have extended := objects true
  generalize findObject? first name false = root at defined
  generalize findObject? second name false = rootAgain at defined
  cases defined with
  | some alike => exact .some ⟨false, alike⟩
  | none =>
    generalize findObject? first name true = root at extended
    generalize findObject? second name true = rootAgain at extended
    cases extended with
    | none => exact .none
    | some alike => exact .some ⟨true, alike⟩

/-- Where its extensions also add the same fields in the end, the root has the same fields. -/
theorem findRoot_merged {operation : Operation}
    (named : rootName first operation = rootName second operation)
    (objects : ∀ isExtension, Option.Rel
      (FoundAlike first second (rootName first operation) isExtension)
      (findObject? first (rootName first operation) isExtension)
      (findObject? second (rootName first operation) isExtension))
    (merges : ∀ own, firstOccurrences [] (own ++ extendedFields first (rootName first operation))
      = firstOccurrences [] (own ++ extendedFields second (rootName first operation))) :
    Option.Rel (fun root again => root.2 = again.2 ∧
        mergedFields first root.1 root.2 = mergedFields second again.1 again.2)
      (findRoot? first operation) (findRoot? second operation) := by
  refine optionRel_mono ?_ (findRoot_alike named objects)
  rintro root again ⟨isExtension, alike⟩
  refine ⟨alike.same, ?_⟩
  rw [mergedFields, mergedFields, candidateFields_of_object alike.isFirst,
    candidateFields_of_object alike.isFirstAgain, alike.same]
  exact merges _

end SelectionGen.Schema

namespace SelectionGen.Projection

open Sdl Schema

/-- One definition, with the places where it stands in two documents. -/
structure Relocated (first second : Document) (target other : Target) : Prop where
  same : target.2 = other.2
  stored : typeAt? first target.1 = some target.2
  storedAgain : typeAt? second other.1 = some other.2
  defines : target.2.isExtension = false

theorem Relocated.name_eq {first second : Document} {target other : Target}
    (relocated : Relocated first second target other) : target.name = other.name :=
  congrArg TypeDefinition.name relocated.same

/-- Documents in which fields lead to the same definitions, these have the same fields, and the roots are one
type with the same fields. -/
structure Interchangeable (first second : Document) : Prop where
  leads : ∀ settings otherSettings isRoot field, Option.Rel (Relocated first second)
    (Context.resolvedField ⟨settings, first⟩ isRoot field).target?
    (Context.resolvedField ⟨otherSettings, second⟩ isRoot field).target?
  merges : ∀ target other, Relocated first second target other →
    mergedFields first target.1 target.2 = mergedFields second other.1 other.2
  roots : Option.Rel (fun root again => root.2 = again.2 ∧
      mergedFields first root.1 root.2 = mergedFields second again.1 again.2)
    (findRoot? first .query) (findRoot? second .query)

namespace Context

variable {first second : Document} {settings otherSettings : Settings} {target : Target}
  {isRoot : Bool} {field : Field}

/-- What survives of the same fields of one type does not depend on where the type stands. -/
private theorem survivingFields_of_merged {position place : Nat} {definition : TypeDefinition}
    (merged : mergedFields first position definition = mergedFields second place definition) :
    survivingFields settings first position definition
      = survivingFields settings second place definition :=
  congrArg (filteredFields settings definition.name.text) merged

/-- Interchangeable documents correspond along their common definitions, whatever they were loaded from. -/
theorem corresponds_of_interchangeable (alike : Interchangeable first second) (settings : Settings)
    (paths : List Files.Path) (texts : List String) :
    Corresponds ⟨settings, first⟩ ⟨{ settings with schemaPaths := paths, schemas := texts }, second⟩
      (Relocated first second) where
  package := rfl
  name := fun _ _ relocated => relocated.name_eq
  description := fun _ _ relocated => congrArg TypeDefinition.description relocated.same
  fields := by
    intro target other relocated
    have merged := alike.merges target other relocated
    rw [← relocated.same] at merged ⊢
    exact fieldsMatch_of_surviving (survivingFields_of_merged merged) (alike.leads _ _ false)

/-- The roots of interchangeable documents ask for the same entry point. -/
theorem roots_of_interchangeable (alike : Interchangeable first second) (settings : Settings)
    (paths : List Files.Path) (texts : List String) :
    Option.Rel (RootsMatch ⟨settings, first⟩
        ⟨{ settings with schemaPaths := paths, schemas := texts }, second⟩ (Relocated first second))
      (findRoot? first .query) (findRoot? second .query) := by
  refine optionRel_mono ?_ alike.roots
  rintro ⟨position, definition⟩ ⟨place, _⟩ ⟨rfl, merged⟩
  exact ⟨rfl, rfl, fieldsMatch_of_surviving (survivingFields_of_merged merged) (alike.leads _ _ true)⟩

/-- What a field leads to in one document it leads to in any with the same entries. -/
private theorem relocated_of_target (unambiguous : Unambiguous second) (perm : first.Perm second)
    (leads : (resolvedField ⟨settings, first⟩ isRoot field).target? = some target) :
    ∃ other, (resolvedField ⟨otherSettings, second⟩ isRoot field).target? = some other ∧
      Relocated first second target other := by
  obtain ⟨declared, isFirst, projectable⟩ := target_eq_some_iff.mp leads
  obtain ⟨place, entry⟩ := List.mem_iff_getElem?.mp (perm.mem_iff.mp isFirst.member)
  have stored := typeAt_eq_some_iff.mpr entry
  have defines := (resolves_of_field leads).isDefinition
  have nonScalar : target.2.kind ≠ .scalar := by
    intro scalar
    simp [TypeDefinition.isProjectable, scalar] at projectable
  have alsoFirst : IsFirst second (Admitted target.2.name (fieldScope isRoot field))
      (place, target.2) := unambiguous.isFirst stored defines nonScalar rfl
  rw [isFirst.fits.1] at alsoFirst
  exact ⟨(place, target.2), target_eq_some_iff.mpr ⟨declared, alsoFirst, projectable⟩,
    rfl, isFirst.stored, stored, defines⟩

/-- A field leads to the same definition in documents with the same entries, or to none in both. -/
theorem targets_relocated (unambiguous : Unambiguous first) (perm : first.Perm second)
    (isRoot : Bool) (field : Field) :
    Option.Rel (Relocated first second) (resolvedField ⟨settings, first⟩ isRoot field).target?
      (resolvedField ⟨otherSettings, second⟩ isRoot field).target? := by
  refine optionRel_of_some (fun _ => relocated_of_target (unambiguous.perm perm) perm) ?_
  intro other leads
  obtain ⟨target, found, _⟩ := relocated_of_target unambiguous perm.symm leads
  rw [found, Option.isSome_some]

private theorem relocated_of_lookup
    (same : (findType? first field.type.named (fieldScope isRoot field)).map Prod.snd
      = (findType? second field.type.named (fieldScope isRoot field)).map Prod.snd)
    (leads : (resolvedField ⟨settings, first⟩ isRoot field).target? = some target) :
    ∃ other, (resolvedField ⟨otherSettings, second⟩ isRoot field).target? = some other ∧
      Relocated first second target other := by
  obtain ⟨declared, isFirst, projectable⟩ := target_eq_some_iff.mp leads
  rw [findType_eq_some_iff.mpr isFirst] at same
  obtain ⟨other, found, again⟩ := Option.map_eq_some_iff.mp same.symm
  have alsoFirst := findType_eq_some_iff.mp found
  refine ⟨other, target_eq_some_iff.mpr ⟨declared, alsoFirst, again ▸ projectable⟩, again.symm,
    isFirst.stored, alsoFirst.stored, (resolves_of_field leads).isDefinition⟩

/-- Where the lookup for a field finds one definition in two documents, the field leads to it in both. -/
theorem targets_of_lookup
    (same : (findType? first field.type.named (fieldScope isRoot field)).map Prod.snd
      = (findType? second field.type.named (fieldScope isRoot field)).map Prod.snd) :
    Option.Rel (Relocated first second) (resolvedField ⟨settings, first⟩ isRoot field).target?
      (resolvedField ⟨otherSettings, second⟩ isRoot field).target? := by
  refine optionRel_of_some (fun _ => relocated_of_lookup same) ?_
  intro other leads
  obtain ⟨target, found, _⟩ := relocated_of_lookup same.symm leads
  rw [found, Option.isSome_some]

/-- Rearranged documents are interchangeable: the roots are one definition, or the first of the same
extensions, and definitions have the same fields. -/
theorem interchangeable_of_rearranged (unambiguous : Unambiguous first)
    (rearranged : Rearranged first second) : Interchangeable first second where
  leads := fun _ _ => targets_relocated unambiguous rearranged.perm
  merges := by
    rintro ⟨position, definition⟩ ⟨place, _⟩ ⟨rfl, stored, storedAgain, defines⟩
    rw [mergedFields, mergedFields, candidateFields_of_definition stored defines,
      candidateFields_of_definition storedAgain defines, rearranged.extendedFields_eq]
  roots := by
    apply findRoot_merged (rearranged.rootName_eq .query) (rearranged.findObject unambiguous _)
    intro own
    rw [rearranged.extendedFields_eq]

end Context

end SelectionGen.Projection

namespace SelectionGen.Generation

open Sdl Schema Projection

/-- Interchangeable documents give the same result, whatever they were loaded from. -/
theorem outcome_of_interchangeable {first second : Document} (alike : Interchangeable first second)
    (settings : Settings) (paths : List Files.Path) (texts : List String) :
    (ofGivenDocument settings [] first).outcome
      = (ofGivenDocument { settings with schemaPaths := paths, schemas := texts } [] second).outcome :=
  Context.outcome_eq_of_corresponds (Context.corresponds_of_interchangeable alike settings paths texts)
    rfl rfl (Context.roots_of_interchangeable alike settings paths texts)

/-- **Where definitions stand does not matter.** Two documents with the same entries give equal results, class
by class and in the same order, or the same clash, when each type is defined at most once, no extension
of a scalar has the name of a type that is defined as something else, and extensions of one object, as
well as schema entries, stand in the same order in both. So it does not matter either which files or
texts the definitions come from. -/
theorem outcome_of_rearranged {first second : Document} (unambiguous : Unambiguous first)
    (rearranged : Rearranged first second) (settings : Settings) :
    (ofGivenDocument settings [] first).outcome = (ofGivenDocument settings [] second).outcome ∧
    ∀ tree current otherTree otherCurrent paths texts,
      (load tree current settings.schemaPaths settings.schemas).outcome = .ok first →
      (load otherTree otherCurrent paths texts).outcome = .ok second →
      (ofSettings settings [] tree current).outcome
        = (ofSettings { settings with schemaPaths := paths, schemas := texts } []
            otherTree otherCurrent).outcome := by
  have outcomes := outcome_of_interchangeable
    (Context.interchangeable_of_rearranged unambiguous rearranged) settings
  refine ⟨outcomes settings.schemaPaths settings.schemas, ?_⟩
  intro tree current otherTree otherCurrent paths texts loaded loadedOther
  rw [outcome_of_loaded loaded, outcomes paths texts, outcome_of_loaded loadedOther]

end SelectionGen.Generation

/-! The library in two texts, read in either order. The second text extends the root that the first one
defines. -/
namespace SelectionGen.Projection.Library

open Sdl Schema

def booksText : String :=
  "type Query { books: [Book!]! } type Book { title: String! author: Author }"

def peopleText : String :=
  "extend type Query { authors: [Author] } " ++
    "interface Author { books(first: Int): [Book] publisher: Publisher @skipcodegen }"

def books : Document := [.type query, .type book.2]

def authorsEntry : TypeDefinition where
  kind := .object
  isExtension := true
  name := customaryQuery
  fields := [{ name := ⟨"authors", by decide +kernel⟩, type := ⟨[.list], authorName⟩ }]

def people : Document := [.type authorsEntry, .type author.2]

theorem read_booksText : Document.read booksText = .ok books := by decide +kernel

theorem read_peopleText : Document.read peopleText = .ok people := by decide +kernel

theorem load_texts {text otherText : String} {document other : Document}
    (read : Document.read text = .ok document) (readOther : Document.read otherText = .ok other) :
    (load {} [] [] [text, otherText]).outcome = .ok (document ++ other) := by
  have gathered : sources {} [] [] [text, otherText]
      = .ok [.inline 0 text, .inline 1 otherText] := by
    simp [sources, inOrder, bind, Except.bind, pure, Except.pure]
  simp [load, gathered, readSources, Source.read, Source.text, bind, Except.bind, read, readOther, Except.map]
  rfl

theorem unambiguous : Unambiguous (books ++ people) where
  once := by decide
  scalars := by
    intro definition extension _ member _ _ _ scalar
    simp only [books, people, List.cons_append, List.nil_append, List.mem_cons, List.not_mem_nil,
      or_false, Definition.type.injEq] at member
    rcases member with rfl | rfl | rfl | rfl <;> cases scalar

theorem rearranged : Rearranged (books ++ people) (people ++ books) where
  perm := List.perm_append_comm
  extensions := fun name => by
    have unextended : books.filter (extendsObject name) = [] := by
      simp [books, extendsObject, Definition.type?, ObjectNamed, query, book]
    rw [List.filter_append, List.filter_append, unextended, List.nil_append, List.append_nil]
  schemas := rfl

end SelectionGen.Projection.Library

namespace SelectionGen.Generation

open Schema Projection.Library

/-- Whichever text comes first, the library has the same classes. -/
theorem library_rearranged :
    Unambiguous (books ++ people) ∧ Rearranged (books ++ people) (people ++ books) ∧
    (ofSettings { schemas := [booksText, peopleText] } [] {} []).outcome
      = (ofSettings { schemas := [peopleText, booksText] } [] {} []).outcome := by
  have booksFirst := load_texts read_booksText read_peopleText
  have peopleFirst := load_texts read_peopleText read_booksText
  refine ⟨unambiguous, rearranged, ?_⟩
  exact (outcome_of_rearranged unambiguous rearranged { schemas := [booksText, peopleText] }).2
    {} [] {} [] [] [peopleText, booksText] booksFirst peopleFirst

end SelectionGen.Generation
