import SelectionGen.Proofs.Visits

/-! What a run gives out: the entry point of its root, and one projection for each type that the fields of
the root lead to, directly or through the fields of other such types. Nothing else is given out, and
what a projection holds does not depend on the way that led to it. -/
namespace SelectionGen.Projection

open Sdl Schema

namespace Context

variable {context : Context} {targets given : List Target} {registry final : Registry}
  {ending : Option Clash} {target : Target}

/-- A descent gives out nothing but what the types it follows lead to. -/
theorem Descent.given_reached (descent : context.Descent targets registry given final ending) :
    ∀ target ∈ given, context.Reached targets target := by
  intro target member
  obtain ⟨added, _, visited, listed⟩ := descent.registers_visited
  exact (visited target (listed target member)).1.reached

/-- A descent registers nothing but what the types it follows lead to, even when a clash breaks it off. -/
theorem Descent.entries_reached (descent : context.Descent targets registry given final ending) :
    ∀ entry ∈ final, entry ∈ registry ∨
      ∃ target, context.Reached targets target ∧ entry = target.entry := by
  intro entry member
  obtain ⟨added, rfl, visited, _⟩ := descent.registers_visited
  rcases List.mem_append.mp member with before | new
  · exact .inl before
  · obtain ⟨target, inAdded, rfl⟩ := List.mem_map.mp new
    exact .inr ⟨target, (visited target inAdded).1.reached, rfl⟩

/-- After a descent from an empty registry whatever the types it follows lead to is registered. -/
theorem Descent.lookup_of_reached (descent : context.Descent targets [] given final none)
    (resolving : ∀ start ∈ targets, context.Resolves start)
    (reached : context.Reached targets target) :
    final.lookup target.className = some target.typeName :=
  descent.lookup_of_visited resolving reached.visited

/-- A descent from an empty registry gives out exactly what the types it follows lead to. -/
theorem Descent.mem_given_iff (descent : context.Descent targets [] given final none)
    (resolving : ∀ start ∈ targets, context.Resolves start) :
    target ∈ given ↔ context.Reached targets target := by
  constructor
  · exact descent.given_reached target
  · intro reached
    exact (descent.mem_given_iff_visited resolving).mpr ⟨reached.visited, rfl⟩

/-- **A run gives out exactly what its root leads to.** It has one entry point, with one composite accessor
for each surviving field of the root that leads to a type, and one projection for each type in the
least set that holds those types and, with each type, what its surviving fields lead to. A projection
is made from the settings, the document and the definition of its type alone, which is the first one
of the type's name. -/
theorem generate_reaches_exactly {context : Context} {position : Nat} {definition : TypeDefinition}
    {api : Api} (done : (context.generate position definition).1 = .ok api) :
    (∃ root, api.queryTypes = [root] ∧ root = context.rootProjectionOf position definition ∧
      root.accessors.map Accessor.meaning
        = (context.resolvedFields true position definition).filterMap context.entryMeaning?) ∧
    (∀ name, name ∈ api.clientProjections.map Projection.sourceType ↔
      ∃ target, context.Reached (context.rootTargets position definition) target ∧
        target.typeName = name) ∧
    (api.clientProjections.map Projection.sourceType).Nodup ∧
    (∀ projection ∈ api.clientProjections,
      ∃ target, context.Reached (context.rootTargets position definition) target ∧
        projection = context.projection target ∧
        projection.accessors.map Accessor.meaning
          = (context.resolvedFields false target.1 target.2).map context.fieldMeaning) ∧
    (∀ target, context.Reached (context.rootTargets position definition) target →
      context.Resolves target) := by
  obtain ⟨given, final, descent, rfl⟩ := generate_ok done
  have resolving : ∀ start ∈ context.rootTargets position definition, context.Resolves start :=
    fun _ => resolves_of_mem_rootTargets
  have sources : (given.map context.projection).map Projection.sourceType
      = given.map Target.typeName := List.map_map
  refine ⟨⟨_, rfl, rfl, rootProjectionOf_meaning position definition⟩, fun name => ?_, ?_, ?_, ?_⟩
  · simp only [sources, List.mem_map, descent.mem_given_iff resolving]
  · rw [sources]
    refine List.Nodup.of_map className ?_
    rw [List.map_map]
    exact descent.classNames_nodup
  · intro projection member
    obtain ⟨target, inGiven, rfl⟩ := List.mem_map.mp member
    exact ⟨target, descent.given_reached target inGiven, rfl, projectionOf_meaning ..⟩
  · exact fun target reached => reached.resolves resolving

/-- Nothing but a field that is left out leads to publishers, so no class is generated for them. -/
theorem library_reaches_exactly :
    (∃ target, Library.context.Reached (Library.context.rootTargets 0 Library.query) target ∧
      target.typeName = "Author") ∧
    ¬ ∃ target, Library.context.Reached (Library.context.rootTargets 0 Library.query) target ∧
      target.typeName = "Publisher" := by
  obtain ⟨_, exactly, _⟩ := generate_reaches_exactly Library.generated
  rw [← exactly "Author", ← exactly "Publisher"]
  decide

end Context

end SelectionGen.Projection
