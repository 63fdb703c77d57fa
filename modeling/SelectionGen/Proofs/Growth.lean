import SelectionGen.Proofs.Clashes
import SelectionGen.Proofs.Merging
import SelectionGen.Proofs.Pruning

/-! Schemas that grow. Extensions of object types that are put behind a schema lead no reference elsewhere,
because references never lead to extensions, and the fields they bring are merged behind those that are
there. Accessors are named from the first on, so those that a class had keep their places, names and
meanings, and new ones follow. A new field may close a cycle or lead to a type on another way; that
moves classes about but leaves none out. -/
namespace SelectionGen

/-- The definition adds fields to an object type. -/
def Sdl.Definition.ExtendsObject (definition : Sdl.Definition) : Prop :=
  ∃ found, definition = .type found ∧ found.kind = .object ∧ found.isExtension = true

/-- The same class with all its accessors, and perhaps more behind them. -/
structure Projection.ContinuedBy (old new : Projection) : Prop where
  classRef : old.classRef = new.classRef
  sourceType : old.sourceType = new.sourceType
  description : old.description = new.description
  accessors : old.accessors <+: new.accessors

namespace Schema

open Sdl

variable {document extensions : Document} {wanted : TypeDefinition → Prop}
  {found : Nat × TypeDefinition} {name : Name} {position : Nat} {definition : TypeDefinition}

theorem typeAt_append (stored : typeAt? document position = some definition) :
    typeAt? (document ++ extensions) position = some definition := by
  rw [typeAt_eq_some_iff] at stored ⊢
  rw [List.getElem?_append_left (List.getElem?_eq_some_iff.mp stored).1, stored]

/-- What stands behind a first entry has no part in finding it. -/
theorem IsFirst.append (isFirst : IsFirst document wanted found) :
    IsFirst (document ++ extensions) wanted found where
  stored := typeAt_append isFirst.stored
  fits := isFirst.fits
  first := by
    intro position before other stored
    have bound : found.1 < document.length :=
      (List.getElem?_eq_some_iff.mp (typeAt_eq_some_iff.mp isFirst.stored)).1
    refine isFirst.first position before other (typeAt_eq_some_iff.mpr ?_)
    rw [← List.getElem?_append_left (Nat.lt_trans before bound)]
    exact typeAt_eq_some_iff.mp stored

theorem mem_append_extensions (extending : ∀ entry ∈ extensions, entry.ExtendsObject)
    (member : .type definition ∈ document ++ extensions) :
    .type definition ∈ document ∨ definition.kind = .object ∧ definition.isExtension = true := by
  rcases List.mem_append.mp member with before | behind
  · exact .inl before
  · obtain ⟨added, same, isObject, isExtension⟩ := extending _ behind
    cases same
    exact .inr ⟨isObject, isExtension⟩

/-- References find nothing new. -/
theorem findType_append (extending : ∀ entry ∈ extensions, entry.ExtendsObject) {scope : LookupScope}
    (plain : scope.excludeExtensions = true) :
    findType? (document ++ extensions) name scope = findType? document name scope := by
  cases looked : findType? document name scope with
  | some found => exact findType_eq_some_iff.mpr (findType_eq_some_iff.mp looked).append
  | none =>
    refine findType_eq_none_iff.mpr fun definition member admitted => ?_
    rcases mem_append_extensions extending member with before | ⟨isObject, isExtension⟩
    · exact findType_eq_none_iff.mp looked definition before admitted
    · have fits := admitted.2
      simp [LookupScope.admits, isObject, isExtension, plain] at fits

theorem rootName_append (extending : ∀ entry ∈ extensions, entry.ExtendsObject)
    (operation : Operation) :
    rootName (document ++ extensions) operation = rootName document operation := by
  have none : extensions.flatMap Definition.roots = [] := by
    refine List.flatMap_eq_nil_iff.mpr fun entry member => ?_
    obtain ⟨added, rfl, _⟩ := extending entry member
    rfl
  rw [rootName, rootName, List.flatMap_append, none, List.append_nil]

/-- A root is defined where it was, or else first extended where it was. -/
theorem findRoot_append (extending : ∀ entry ∈ extensions, entry.ExtendsObject) {operation : Operation}
    (root : findRoot? document operation = some found) :
    findRoot? (document ++ extensions) operation = some found := by
  simp only [findRoot?, rootName_append extending] at root ⊢
  cases defined : findObject? document (rootName document operation) false with
  | some object =>
    rw [defined] at root
    rw [findObject_eq_some_iff.mpr (findObject_eq_some_iff.mp defined).append]
    exact root
  | none =>
    have stillNone : findObject? (document ++ extensions) (rootName document operation) false = none := by
      refine findObject_eq_none_iff.mpr fun definition member named => ?_
      rcases mem_append_extensions extending member with before | ⟨_, isExtension⟩
      · exact findObject_eq_none_iff.mp defined definition before named
      · exact Bool.false_ne_true (named.2.2.symm.trans isExtension)
    rw [defined] at root
    rw [stillNone]
    exact findObject_eq_some_iff.mpr (findObject_eq_some_iff.mp root).append

theorem firstOccurrences_isPrefix (seen : List Name) {fields more : List Field} (grown : fields <+: more) :
    firstOccurrences seen fields <+: firstOccurrences seen more := by
  induction fields generalizing seen more with
  | nil => exact List.nil_prefix
  | cons field rest ih =>
    obtain ⟨added, rfl⟩ := grown
    simp only [List.cons_append, firstOccurrences]
    split
    · exact ih _ (List.prefix_append rest added)
    · exact List.prefix_cons_inj field |>.mpr (ih _ (List.prefix_append rest added))

/-- The fields of a type are merged as before, and new ones behind them. -/
theorem survivingFields_isPrefix (settings : Settings)
    (stored : typeAt? document position = some definition) :
    survivingFields settings document position definition
      <+: survivingFields settings (document ++ extensions) position definition := by
  have bound : position < document.length :=
    (List.getElem?_eq_some_iff.mp (typeAt_eq_some_iff.mp stored)).1
  have candidates : candidateFields document position definition
      <+: candidateFields (document ++ extensions) position definition := by
    refine ⟨extendedFields extensions definition.name, ?_⟩
    simp [candidateFields, extendedFields, List.eraseIdx_append_of_lt_length bound]
  simp only [survivingFields, filteredFields, withoutSkipped, includedFields, mergedFields]
  refine List.IsPrefix.filter _ ?_
  cases settings.allowed? definition.name.text with
  | none => exact firstOccurrences_isPrefix [] candidates
  | some allowed => exact (firstOccurrences_isPrefix [] candidates).filter _

end Schema

namespace Projection.Context

open Sdl Schema

variable {settings : Settings} {document other extensions : Document} {position : Nat}
  {definition : TypeDefinition} {target : Target}

/-- Names are given from the first field on, so fields that come behind change none. What an accessor does
depends on the settings and on what the type of its field leads to. -/
theorem accessors_isPrefix (taken : List String) {fields more : List ResolvedField}
    (grown : fields <+: more) :
    accessors ⟨settings, document⟩ taken fields <+: accessors ⟨settings, other⟩ taken more := by
  induction fields generalizing taken more with
  | nil => exact List.nil_prefix
  | cons field rest ih =>
    obtain ⟨added, rfl⟩ := grown
    exact List.prefix_cons_inj _ |>.mpr (ih _ (List.prefix_append rest added))

theorem resolvedFields_isPrefix (extending : ∀ entry ∈ extensions, entry.ExtendsObject) (isRoot : Bool)
    (stored : typeAt? document position = some definition) :
    resolvedFields ⟨settings, document⟩ isRoot position definition
      <+: resolvedFields ⟨settings, document ++ extensions⟩ isRoot position definition := by
  have resolution : ∀ field : Field, resolve? (document ++ extensions) field.type (fieldScope isRoot field)
      = resolve? document field.type (fieldScope isRoot field) := fun field => by
    have plain : (fieldScope isRoot field).excludeExtensions = true := rfl
    simp only [resolve?, findType_append extending plain]
  simp only [resolvedFields, resolution]
  exact (survivingFields_isPrefix settings stored).map _

theorem within_of_growth (extending : ∀ entry ∈ extensions, entry.ExtendsObject) :
    Within ⟨settings, document⟩ ⟨settings, document ++ extensions⟩ :=
  fun _ resolves => ((resolvedFields_isPrefix extending false resolves.typeAt).filterMap _).subset

theorem projection_continuedBy (extending : ∀ entry ∈ extensions, entry.ExtendsObject)
    (stored : typeAt? document target.1 = some target.2) :
    (projection ⟨settings, document⟩ target).ContinuedBy
      (projection ⟨settings, document ++ extensions⟩ target) where
  classRef := rfl
  sourceType := rfl
  description := rfl
  accessors := accessors_isPrefix [] (resolvedFields_isPrefix extending false stored)

theorem rootProjectionOf_continuedBy (extending : ∀ entry ∈ extensions, entry.ExtendsObject)
    (stored : typeAt? document position = some definition) :
    (rootProjectionOf ⟨settings, document⟩ position definition).ContinuedBy
      (rootProjectionOf ⟨settings, document ++ extensions⟩ position definition) where
  classRef := rfl
  sourceType := rfl
  description := rfl
  accessors := accessors_isPrefix [] ((resolvedFields_isPrefix extending true stored).filter _)

/-- A walk from a root that is there in both schemas. -/
theorem generate_continuedBy (extending : ∀ entry ∈ extensions, entry.ExtendsObject)
    (stored : typeAt? document position = some definition) {old new : Api}
    (before : (generate ⟨settings, document⟩ position definition).1 = .ok old)
    (after : (generate ⟨settings, document ++ extensions⟩ position definition).1 = .ok new) :
    (∀ projection ∈ old.clientProjections,
        ∃ grown ∈ new.clientProjections, projection.ContinuedBy grown) ∧
      List.Forall₂ ContinuedBy old.queryTypes new.queryTypes := by
  have roots : rootTargets ⟨settings, document⟩ position definition
      ⊆ rootTargets ⟨settings, document ++ extensions⟩ position definition :=
    ((resolvedFields_isPrefix extending true stored).filterMap _).subset
  refine ⟨projections_of_within (within_of_growth extending) roots
    (fun target resolves => projection_continuedBy extending resolves.typeAt) before after, ?_⟩
  obtain ⟨_, _, _, rfl⟩ := generate_ok before
  obtain ⟨_, _, _, rfl⟩ := generate_ok after
  exact .cons (rootProjectionOf_continuedBy extending stored) .nil

end Projection.Context

namespace Generation

open Sdl Schema Projection

/-- **Extensions of a schema extend the client.** Put extensions of object types behind a schema that has a root
of queries, and let a run have a result with and without them, under any settings and filters. Then each
class of the old result is in the new one, for the same type and with the same description, and its
accessors begin with those that it had, the same in every part; and the same goes for the entry point. -/
theorem outcome_of_growth {document extensions : Document} {settings : Settings}
    {filters : List TypeFilter} {old new : Api}
    (extending : ∀ entry ∈ extensions, entry.ExtendsObject)
    (rooted : (findRoot? (TypeFilter.applyAll filters document) .query).isSome = true)
    (before : (ofGivenDocument settings filters document).outcome = .ok old)
    (after : (ofGivenDocument settings filters (document ++ extensions)).outcome = .ok new) :
    (∀ projection ∈ old.clientProjections,
        ∃ grown ∈ new.clientProjections, projection.ContinuedBy grown) ∧
      List.Forall₂ Projection.ContinuedBy old.queryTypes new.queryTypes := by
  by_cases wanted : settings.generatesClient = true
  · obtain ⟨⟨position, definition⟩, root⟩ := Option.isSome_iff_exists.mp rooted
    obtain ⟨isExtension, isFirst⟩ := isFirst_of_findRoot root
    have extendingStill : ∀ entry ∈ TypeFilter.applyAll filters extensions, entry.ExtendsObject :=
      fun entry member => extending entry ((TypeFilter.applyAll_sublist filters extensions).mem member)
    have sameRoot := findRoot_append extendingStill root
    rw [ofGivenDocument, run_of_loaded rfl, outcome_ok_iff wanted root] at before
    rw [ofGivenDocument, run_of_loaded rfl, TypeFilter.applyAll_append, outcome_ok_iff wanted sameRoot] at after
    exact Context.generate_continuedBy extendingStill isFirst.stored before after
  · rw [ofGivenDocument, run_unwanted wanted] at before after
    cases before
    cases after
    exact ⟨by simp, .nil⟩

end Generation

/-! The library, where books come to have sequels and authors can be asked for directly. -/
namespace Projection.Library

open Sdl Schema

def sequels : Document :=
  [.type { kind := .object, isExtension := true, name := bookName,
           fields := [{ name := ⟨"sequel", by decide +kernel⟩, type := ⟨[], bookName⟩ }] },
   .type { kind := .object, isExtension := true, name := customaryQuery,
           fields := [{ name := ⟨"writers", by decide +kernel⟩, type := ⟨[.list], authorName⟩ }] }]

theorem sequels_extend : ∀ entry ∈ sequels, entry.ExtendsObject := by
  simp only [sequels, List.forall_mem_cons, List.not_mem_nil, false_implies, implies_true, and_true]
  exact ⟨⟨_, rfl, rfl, rfl⟩, ⟨_, rfl, rfl, rfl⟩⟩

/-- Authors are met below books first, as before, and books below themselves. -/
theorem outcome_sequels : (Generation.ofGivenDocument {} [] (schema ++ sequels)).outcome
    = .ok { queryTypes := [Context.rootProjectionOf ⟨{}, schema ++ sequels⟩ 0 query]
            clientProjections := [Context.projection ⟨{}, schema ++ sequels⟩ author,
              Context.projection ⟨{}, schema ++ sequels⟩ book] } := by
  have ofQuery : Context.rootTargets ⟨{}, schema ++ sequels⟩ 0 query = [book, author] := by
    decide
  have ofBook : Context.targets ⟨{}, schema ++ sequels⟩ book = [author, book] := by decide
  have freshBook : List.lookup book.className [] = (none : Option String) := rfl
  have freshAuthor : List.lookup author.className [book.entry] = none := by decide
  have metBook : List.lookup book.className [book.entry, author.entry] = some book.typeName := by
    decide
  have metAuthor : List.lookup author.className [book.entry, author.entry]
      = some author.typeName := by decide
  have belowBook : Context.Descent ⟨{}, schema ++ sequels⟩
      (Context.targets ⟨{}, schema ++ sequels⟩ book) [book.entry] [author]
      [book.entry, author.entry] none := by
    rw [ofBook]
    exact .alone freshAuthor (by decide) (.met metBook .done)
  have descent : Context.Descent ⟨{}, schema ++ sequels⟩
      (Context.rootTargets ⟨{}, schema ++ sequels⟩ 0 query) [] [author, book]
      [book.entry, author.entry] none := by
    rw [ofQuery]
    exact .finished freshBook belowBook (.met metAuthor .done)
  have root : findRoot? (schema ++ sequels) .query = some (0, query) := by decide
  exact Generation.outcome_of_descent rfl root descent

end Projection.Library

namespace Generation

open Sdl Schema Projection

/-- Books keep the accessors of their titles and authors, and have one more behind them. -/
theorem library_grown :
    (∀ entry ∈ Library.sequels, entry.ExtendsObject) ∧
    (Context.projection ⟨{}, Library.schema ++ Library.sequels⟩ Library.book).accessors.length = 3 ∧
    (Library.context.projection Library.book).ContinuedBy
      (Context.projection ⟨{}, Library.schema ++ Library.sequels⟩ Library.book) := by
  have extended : (Context.projection ⟨{}, Library.schema ++ Library.sequels⟩
      Library.book).accessors.length = 3 := by decide
  have rooted : (findRoot? (TypeFilter.applyAll [] Library.schema) .query).isSome = true := by
    decide
  obtain ⟨kept, _⟩ := outcome_of_growth Library.sequels_extend rooted Library.outcome_schema
    Library.outcome_sequels
  obtain ⟨grown, listed, continued⟩ := kept (Library.context.projection Library.book) (by simp)
  simp only [List.mem_cons, List.not_mem_nil, or_false] at listed
  refine ⟨Library.sequels_extend, extended, ?_⟩
  rcases listed with rfl | rfl
  · exact absurd continued.sourceType (by decide)
  · exact continued

end Generation

end SelectionGen
