import SelectionGen.Proofs.DefinitionOrder

/-! Definitions that come again. Sources are not told apart by what they hold, so a document may have copies of
its own entries. A copy behind its original changes nothing: lookups and roots are taken from the first
entry that fits, and the fields of a copied extension all have names that the original has taken. A type that is
only extended shows that this is no accident of position, because its first extension is told by where
it stands and its copies count as further extensions. -/
namespace SelectionGen.Schema

open Sdl

/-- The document with any number of copies of its entries, each somewhere behind its original. -/
inductive Repeats (document : Document) : Document → Prop
  | same : Repeats document document
  | copy {front back : Document} {entry : Definition} (repeats : Repeats document (front ++ back))
      (member : entry ∈ front) : Repeats document (front ++ entry :: back)

variable {document other front back : Document} {entry : Definition} {name : Name}

theorem Repeats.trans {last : Document} (first : Repeats document other) (second : Repeats other last) :
    Repeats document last := by
  induction second with
  | same => exact first
  | copy _ member ih => exact .copy ih member

/-- A stretch of copies may stand together. -/
theorem Repeats.block (front back : Document) {copies : Document} (known : copies ⊆ front) :
    Repeats (front ++ back) (front ++ (copies ++ back)) := by
  induction copies generalizing front with
  | nil => exact .same
  | cons entry rest ih =>
    obtain ⟨member, behind⟩ := List.cons_subset.mp known
    have copied : Repeats (front ++ back) (front ++ entry :: back) := .copy .same member
    have further := ih (front ++ [entry]) (List.subset_append_of_subset_left [entry] behind)
    simp only [List.append_assoc, List.singleton_append] at further
    exact copied.trans further

/-- Filters leave copies behind their originals. -/
theorem Repeats.filter (keeps : Definition → Bool) (repeats : Repeats document other) :
    Repeats (document.filter keeps) (other.filter keeps) := by
  induction repeats with
  | same => exact .same
  | @copy front back entry _ member ih =>
    rw [List.filter_append] at ih ⊢
    by_cases kept : keeps entry = true
    · rw [List.filter_cons_of_pos kept]
      exact .copy ih (List.mem_filter.mpr ⟨member, kept⟩)
    · rw [List.filter_cons_of_neg kept]
      exact ih

theorem Repeats.applyAll (filters : List TypeFilter) (repeats : Repeats document other) :
    Repeats (TypeFilter.applyAll filters document) (TypeFilter.applyAll filters other) := by
  rw [TypeFilter.applyAll_eq_filter, TypeFilter.applyAll_eq_filter]
  exact repeats.filter _

/-! One copy. -/

theorem find_types_copy (member : entry ∈ front) (back : Document) (wanted : TypeDefinition → Bool) :
    (types (front ++ back)).find? wanted = (types (front ++ entry :: back)).find? wanted := by
  cases entry with
  | schema | directive | operation | fragment => simp [types, Definition.type?]
  | type definition =>
    have known : definition ∈ types front := mem_types.mpr member
    have split : types (front ++ .type definition :: back)
        = types front ++ definition :: types back := by simp [types, Definition.type?]
    have joined : types (front ++ back) = types front ++ types back := by simp [types]
    rw [joined, split, List.find?_append, List.find?_append]
    cases found : (types front).find? wanted with
    | some first => rfl
    | none =>
      have unwanted : ¬ wanted definition = true := List.find?_eq_none.mp found definition known
      rw [List.find?_cons_of_neg unwanted]

theorem rootName_copy (member : entry ∈ front) (back : Document) (operation : Operation) :
    rootName (front ++ back) operation = rootName (front ++ entry :: back) operation := by
  simp only [rootName, List.flatMap_append, List.flatMap_cons, List.lookup_append]
  cases found : (front.flatMap Definition.roots).lookup operation with
  | some named => rfl
  | none =>
    have unnamed : entry.roots.lookup operation = none := by
      rw [List.lookup_eq_none_iff] at found ⊢
      exact fun root listed => found root (List.mem_flatMap.mpr ⟨entry, member, listed⟩)
    rw [unnamed, Option.none_or, Option.none_or]

/-- Fields of an extension that is copied add nothing, whatever fields the type has of its own. -/
theorem firstOccurrences_copy (member : entry ∈ front) (back : Document) (own : List Field) (name : Name) :
    firstOccurrences [] (own ++ extendedFields (front ++ back) name)
      = firstOccurrences [] (own ++ extendedFields (front ++ entry :: back) name) := by
  have known : ∀ field ∈ extensionFields name entry,
      field.name ∈ ([] : List Name) ∨
        ∃ other ∈ own ++ extendedFields front name, other.name = field.name := by
    intro field given
    exact .inr ⟨field, List.mem_append_right own (List.mem_flatMap.mpr ⟨entry, member, given⟩), rfl⟩
  have absorbed : firstOccurrences []
        (own ++ extendedFields front name ++ (extensionFields name entry ++ extendedFields back name))
      = firstOccurrences [] (own ++ extendedFields front name ++ extendedFields back name) :=
    firstOccurrences_absorb known
  simpa only [extendedFields, List.flatMap_append, List.flatMap_cons, List.append_assoc]
    using absorbed.symm

end SelectionGen.Schema

namespace SelectionGen.Projection

open Sdl Schema

variable {front : Document} {entry : Definition}

theorem interchangeable_self (document : Document) : Interchangeable document document where
  leads := fun _ _ _ _ => Context.targets_of_lookup rfl
  merges := by
    rintro ⟨position, definition⟩ ⟨place, _⟩ ⟨rfl, stored, storedAgain, defines⟩
    rw [mergedFields, mergedFields, candidateFields_of_definition stored defines,
      candidateFields_of_definition storedAgain defines]
  roots := by
    cases findRoot? document .query with
    | none => exact .none
    | some root => exact .some ⟨rfl, rfl⟩

/-- One copy behind its original changes nothing that generation looks at. -/
theorem interchangeable_copy (member : entry ∈ front) (back : Document) :
    Interchangeable (front ++ back) (front ++ entry :: back) where
  leads := by
    intro settings otherSettings isRoot field
    apply Context.targets_of_lookup
    rw [findType_types, findType_types, find_types_copy member]
  merges := by
    rintro ⟨position, definition⟩ ⟨place, _⟩ ⟨rfl, stored, storedAgain, defines⟩
    rw [mergedFields, mergedFields, candidateFields_of_definition stored defines,
      candidateFields_of_definition storedAgain defines]
    exact firstOccurrences_copy member back definition.fields definition.name
  roots := by
    apply findRoot_merged (rootName_copy member back .query)
    · intro isExtension
      exact foundAlike_of_types (find_types_copy member back _)
    · intro own
      exact firstOccurrences_copy member back own _

end SelectionGen.Projection

namespace SelectionGen.Generation

open Sdl Schema Projection

/-- A run on a document with copies is a run on the document, whatever it was loaded from and whichever types
are filtered away. -/
theorem outcome_of_copies {document other : Document} (repeats : Repeats document other)
    (settings : Settings) (filters : List TypeFilter) (paths : List Files.Path) (texts : List String) :
    (ofGivenDocument settings filters document).outcome
      = (ofGivenDocument { settings with schemaPaths := paths, schemas := texts } filters other).outcome := by
  have repeatsStill := repeats.applyAll filters
  rw [ofGivenDocument, ofGivenDocument, run_of_loaded rfl, run_of_loaded rfl]
  generalize TypeFilter.applyAll filters document = filtered at repeatsStill
  generalize TypeFilter.applyAll filters other = otherFiltered at repeatsStill
  induction repeatsStill with
  | same => exact outcome_of_interchangeable (interchangeable_self filtered) settings paths texts
  | copy _ member ih =>
    exact ih.trans (outcome_of_interchangeable (interchangeable_copy member _) _ paths texts)

end SelectionGen.Generation
