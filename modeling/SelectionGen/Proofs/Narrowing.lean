import SelectionGen.Proofs.Clashes
import SelectionGen.Proofs.Pruning

/-! Settings that want fewer fields. A field that is no longer wanted takes its accessor with it and may cut
types off that nothing else leads to. Whatever is left is as it was: a run that had a result keeps having
one, and its classes are among those of before, each with some of the accessors that it had. Only the
names of accessors are no part of that, because a name that was taken may now be free. -/
namespace SelectionGen

/-- Whether entries for fields let a field of a type through. A type without an entry has all its fields. -/
def Settings.Wants (entries : List (String × List String)) (owner field : String) : Prop :=
  ∀ allowed, entries.lookup owner = some allowed → field ∈ allowed

/-- Of no type more fields are wanted. -/
def Settings.Narrows (fewer more : List (String × List String)) : Prop :=
  ∀ owner field, Settings.Wants fewer owner field → Settings.Wants more owner field

/-- The settings with other entries for fields. -/
def Settings.wanting (settings : Settings) (entries : List (String × List String)) : Settings :=
  { settings with includeFields := entries }

/-- The same class, with some of the accessors in the same order, whatever they are called. -/
structure Projection.CutFrom (small large : Projection) : Prop where
  classRef : small.classRef = large.classRef
  sourceType : small.sourceType = large.sourceType
  description : small.description = large.description
  accessors : (small.accessors.map Accessor.meaning).Sublist (large.accessors.map Accessor.meaning)

/-- The same entry points and some of the classes, each with some of its accessors. -/
structure Api.CutFrom (small large : Api) : Prop where
  queryTypes : List.Forall₂ Projection.CutFrom small.queryTypes large.queryTypes
  clientProjections : ∀ projection ∈ small.clientProjections,
    ∃ whole ∈ large.clientProjections, projection.CutFrom whole

namespace Projection.Context

open Sdl Schema

variable {settings : Settings} {fewer more : List (String × List String)} {document : Document}
  {position : Nat} {definition : TypeDefinition}

theorem keepsField_iff {owner : String} {field : Field} :
    keepsField settings owner field = true ↔
      Settings.Wants settings.includeFields owner field.name.text ∧ isSkipped field = false := by
  simp only [keepsField, Settings.allowed?, Settings.Wants, Bool.and_eq_true, Bool.not_eq_true']
  cases settings.includeFields.lookup owner <;> simp

theorem survivingFields_sublist (narrows : Settings.Narrows fewer more) :
    (survivingFields (settings.wanting fewer) document position definition).Sublist
      (survivingFields (settings.wanting more) document position definition) := by
  rw [survivingFields, survivingFields, filteredFields_eq_filter, filteredFields_eq_filter]
  refine List.monotone_filter_right _ fun field kept => ?_
  obtain ⟨wanted, unskipped⟩ := keepsField_iff.mp kept
  exact keepsField_iff.mpr ⟨narrows _ _ wanted, unskipped⟩

theorem resolvedFields_sublist (narrows : Settings.Narrows fewer more) (isRoot : Bool) :
    (resolvedFields ⟨settings.wanting fewer, document⟩ isRoot position definition).Sublist
      (resolvedFields ⟨settings.wanting more, document⟩ isRoot position definition) :=
  (survivingFields_sublist narrows).map _

/-- What an accessor has to do does not depend on which fields are wanted. -/
theorem fieldMeaning_wanting (entries : List (String × List String)) :
    fieldMeaning ⟨settings.wanting entries, document⟩ = fieldMeaning ⟨settings, document⟩ := rfl

theorem entryMeaning_wanting (entries : List (String × List String)) :
    entryMeaning? ⟨settings.wanting entries, document⟩ = entryMeaning? ⟨settings, document⟩ := rfl

theorem within_of_narrows (narrows : Settings.Narrows fewer more) :
    Within ⟨settings.wanting fewer, document⟩ ⟨settings.wanting more, document⟩ :=
  fun _ _ => ((resolvedFields_sublist narrows false).filterMap _).subset

theorem projection_cutFrom (narrows : Settings.Narrows fewer more) (target : Target) :
    (projection ⟨settings.wanting fewer, document⟩ target).CutFrom
      (projection ⟨settings.wanting more, document⟩ target) where
  classRef := rfl
  sourceType := rfl
  description := rfl
  accessors := by
    simp only [projection, projectionOf_meaning, fieldMeaning_wanting]
    exact (resolvedFields_sublist narrows false).map _

theorem rootProjectionOf_cutFrom (narrows : Settings.Narrows fewer more) :
    (rootProjectionOf ⟨settings.wanting fewer, document⟩ position definition).CutFrom
      (rootProjectionOf ⟨settings.wanting more, document⟩ position definition) where
  classRef := rfl
  sourceType := rfl
  description := rfl
  accessors := by
    simp only [rootProjectionOf_meaning, entryMeaning_wanting]
    exact (resolvedFields_sublist narrows true).filterMap _

/-- Everything that a root leads to, with fewer fields wanted. -/
theorem generate_of_narrows (narrows : Settings.Narrows fewer more) {large : Api}
    (done : (generate ⟨settings.wanting more, document⟩ position definition).1 = .ok large) :
    ∃ small, (generate ⟨settings.wanting fewer, document⟩ position definition).1 = .ok small ∧
      small.CutFrom large := by
  have within : Within ⟨settings.wanting fewer, document⟩ ⟨settings.wanting more, document⟩ :=
    within_of_narrows narrows
  have roots : rootTargets ⟨settings.wanting fewer, document⟩ position definition
      ⊆ rootTargets ⟨settings.wanting more, document⟩ position definition :=
    ((resolvedFields_sublist narrows true).filterMap _).subset
  obtain ⟨small, smallDone⟩ := generate_ok_of_within within roots ⟨large, done⟩
  refine ⟨small, smallDone, ?_, projections_of_within within roots
    (fun target _ => projection_cutFrom narrows target) smallDone done⟩
  obtain ⟨_, _, _, rfl⟩ := generate_ok smallDone
  obtain ⟨_, _, _, rfl⟩ := generate_ok done
  exact .cons (rootProjectionOf_cutFrom narrows) .nil

end Projection.Context

namespace Generation

open Sdl Schema Projection

variable {settings : Settings} {fewer more : List (String × List String)} {document : Document}

private theorem nothing_cutFrom : Api.CutFrom {} {} := ⟨.nil, by simp⟩

/-- A run on a document, with fewer fields wanted. -/
theorem outcome_cutFrom (narrows : Settings.Narrows fewer more)
    (wanted : ∀ entries, (settings.wanting entries).generatesClient = true) {large : Api}
    (done : (ofGivenDocument (settings.wanting more) [] document).outcome = .ok large) :
    ∃ small, (ofGivenDocument (settings.wanting fewer) [] document).outcome = .ok small ∧
      small.CutFrom large := by
  cases root : findRoot? document .query with
  | none =>
    rw [outcome_without_root root] at done
    cases done
    exact ⟨{}, outcome_without_root root, nothing_cutFrom⟩
  | some found =>
    obtain ⟨small, smallDone, cut⟩ :=
      Context.generate_of_narrows narrows ((outcome_ok_iff (wanted more) root).mp done)
    exact ⟨small, (outcome_ok_iff (wanted fewer) root).mpr smallDone, cut⟩

/-- **Wanting fewer fields only removes.** Take settings that differ in their entries for fields alone, and of
no type want more fields than before. Then a walk from any root that had a result still has one, and so
has a whole run, whatever it loads and whichever types are filtered away. Each class of the new result
was there before, for the same type and with the same description, and its accessors are some of those
that it had, in the same order; and the same goes for the entry point. -/
theorem outcome_of_narrows {fewer more : List (String × List String)}
    (narrows : Settings.Narrows fewer more) (settings : Settings) :
    (∀ document position definition large,
      (Context.generate ⟨settings.wanting more, document⟩ position definition).1 = .ok large →
      ∃ small, (Context.generate ⟨settings.wanting fewer, document⟩ position definition).1 = .ok small ∧
        small.CutFrom large) ∧
    ∀ filters load large, (run (settings.wanting more) filters load).outcome = .ok large →
      ∃ small, (run (settings.wanting fewer) filters load).outcome = .ok small ∧
        small.CutFrom large := by
  refine ⟨fun _ _ _ _ done => Context.generate_of_narrows narrows done, ?_⟩
  intro filters load large done
  by_cases generates : settings.generatesClient = true
  · have wanted : ∀ entries, (settings.wanting entries).generatesClient = true := fun _ => generates
    obtain ⟨document, loaded⟩ := loaded_of_run (wanted more) done
    rw [run_of_loaded loaded] at done ⊢
    exact outcome_cutFrom narrows wanted done
  · have unwanted : ∀ entries, ¬ (settings.wanting entries).generatesClient = true :=
      fun _ => generates
    rw [run_unwanted (unwanted more)] at done
    cases done
    exact ⟨{}, run_unwanted (unwanted fewer), nothing_cutFrom⟩

/-- Books of which only the titles are wanted lead to no authors, and the class of books keeps the accessor
of the title. -/
theorem library_narrowed :
    Settings.Narrows [("Book", ["title"])] [] ∧
    ∃ small, (ofGivenDocument (Settings.wanting {} [("Book", ["title"])]) [] Library.schema).outcome
        = .ok small ∧
      small.CutFrom { queryTypes := [Library.context.rootProjectionOf 0 Library.query]
                      clientProjections := [Library.context.projection Library.author,
                        Library.context.projection Library.book] } := by
  have narrows : Settings.Narrows [("Book", ["title"])] [] := by
    intro owner field _ allowed listed
    cases listed
  exact ⟨narrows, (outcome_of_narrows narrows {}).2 [] _ _ Library.outcome_schema⟩

end Generation

end SelectionGen
