import SelectionGen.Proofs.Registration

/-! What a descent visits when some classes are registered before it begins. It does not go below a type whose
class is registered then, so what it visits is the least set that holds the given types and, with each
type of a new class, what its fields lead to. Neither the order of the given types nor what is
registered on the way has a part in it. A descent that no clash breaks off registers what it visits and
gives out what was new of it. -/
namespace SelectionGen.Projection

open Sdl Schema

namespace Context

/-- The types that are looked up in the course of a descent that begins with a registry. -/
inductive Visited (context : Context) (registry : Registry) (starts : List Target) : Target → Prop
  | start (member : target ∈ starts) : Visited context registry starts target
  | step (visited : Visited context registry starts target)
      (fresh : registry.lookup target.className = none) (leads : context.Leads target next) :
      Visited context registry starts next

variable {context : Context} {targets given later : List Target} {registry final : Registry}
  {ending : Option Clash} {target next : Target}

theorem Visited.mono {more starts : List Target} {wider : Registry}
    (fewer : ∀ name, wider.lookup name = none → registry.lookup name = none)
    (included : ∀ start ∈ starts, context.Visited registry more start)
    (visited : context.Visited wider starts target) : context.Visited registry more target := by
  induction visited with
  | start member => exact included _ member
  | step _ fresh leads ih => exact .step ih (fewer _ fresh) leads

theorem Visited.reached (visited : context.Visited registry targets target) :
    context.Reached targets target := by
  induction visited with
  | start member => exact .start member
  | step _ _ leads ih => exact .step ih leads

/-- With nothing registered a descent visits all that its types lead to. -/
theorem Reached.visited (reached : context.Reached targets target) :
    context.Visited [] targets target := by
  induction reached with
  | start member => exact .start member
  | step _ leads ih => exact .step ih rfl leads

/-- The less is registered, the more is visited. -/
theorem Visited.of_append {added : Registry}
    (visited : context.Visited (registry ++ added) targets target) :
    context.Visited registry targets target :=
  visited.mono (fun _ => Registry.absent_of_append) fun _ member => .start member

/-- What is visited below a type of a new class is visited from the type. -/
theorem visited_below (fresh : registry.lookup target.className = none)
    (visited : context.Visited registry (context.targets target) next) :
    context.Visited registry (target :: later) next :=
  visited.mono (fun _ => id) fun _ leads => .step (.start List.mem_cons_self) fresh leads

theorem visited_later (visited : context.Visited registry later next) :
    context.Visited registry (target :: later) next :=
  visited.mono (fun _ => id) fun _ member => .start (List.mem_cons_of_mem _ member)

/-- A descent registers nothing but what it visits and what was new when it began, even when a clash breaks
it off, and it gives out nothing else. -/
theorem Descent.registers_visited (descent : context.Descent targets registry given final ending) :
    ∃ added : List Target, final = registry ++ added.map Target.entry ∧
      (∀ target ∈ added, context.Visited registry targets target ∧
        registry.lookup target.className = none) ∧
      ∀ target ∈ given, target ∈ added := by
  induction descent with
  | done | refused => exact ⟨[], by simp, by simp, by simp⟩
  | @met target registry later _ _ _ _ _ ih =>
    obtain ⟨added, rfl, visited, listed⟩ := ih
    refine ⟨added, rfl, fun found member => ?_, listed⟩
    obtain ⟨seen, new⟩ := visited found member
    exact ⟨visited_later seen, new⟩
  | @broken target registry _ _ _ _ fresh _ ih =>
    obtain ⟨added, rfl, visited, listed⟩ := ih
    refine ⟨target :: added, by simp, fun found member => ?_,
      fun found member => List.mem_cons_of_mem _ (listed found member)⟩
    rcases List.mem_cons.mp member with rfl | below
    · exact ⟨.start List.mem_cons_self, fresh⟩
    · obtain ⟨seen, new⟩ := visited found below
      exact ⟨visited_below fresh seen.of_append, Registry.absent_of_append new⟩
  | @finished target registry _ _ _ _ _ _ fresh _ _ ihInside ihRest =>
    obtain ⟨inside, rfl, visitedInside, listedInside⟩ := ihInside
    obtain ⟨behind, rfl, visitedBehind, listedBehind⟩ := ihRest
    refine ⟨target :: (inside ++ behind), by simp, fun found member => ?_, fun found member => ?_⟩
    · rcases List.mem_cons.mp member with rfl | more
      · exact ⟨.start List.mem_cons_self, fresh⟩
      rcases List.mem_append.mp more with below | after
      · obtain ⟨seen, new⟩ := visitedInside found below
        exact ⟨visited_below fresh seen.of_append, Registry.absent_of_append new⟩
      · obtain ⟨seen, new⟩ := visitedBehind found after
        rw [List.append_assoc] at seen new
        exact ⟨visited_later seen.of_append, Registry.absent_of_append new⟩
    · rcases List.mem_append.mp member with below | fromHere
      · exact List.mem_cons_of_mem _ (List.mem_append_left _ (listedInside found below))
      rcases List.mem_cons.mp fromHere with rfl | after
      · exact List.mem_cons_self
      · exact List.mem_cons_of_mem _ (List.mem_append_right _ (listedBehind found after))

/-- What is registered after a descent was so before, or belongs to a type that the descent visited. -/
theorem Descent.lookup_visited {name typeName : String}
    (descent : context.Descent targets registry given final ending)
    (known : final.lookup name = some typeName) :
    registry.lookup name = some typeName ∨
      ∃ target, context.Visited registry targets target ∧ target.className = name ∧
        target.typeName = typeName := by
  obtain ⟨added, rfl, visited, _⟩ := descent.registers_visited
  rcases Registry.lookup_append_cases known with old | new
  · exact .inl old
  · obtain ⟨target, inAdded, same⟩ := List.mem_map.mp new
    obtain ⟨sameClass, sameType⟩ := Prod.mk.inj same
    exact .inr ⟨target, (visited target inAdded).1, sameClass, sameType⟩

/-- A new type that is registered when a descent is through was given out. -/
theorem Descent.mem_given_of_new (descent : context.Descent targets registry given final none)
    (resolving : ∀ start ∈ targets, context.Resolves start) (resolves : context.Resolves target)
    (fresh : registry.lookup target.className = none)
    (known : final.lookup target.className = some target.typeName) : target ∈ given := by
  obtain ⟨_, _, visited, listedVisited⟩ := descent.registers_visited
  obtain ⟨added, rfl, _, listed⟩ := descent.accounts
  rcases Registry.lookup_append_cases known with old | new
  · simp [fresh] at old
  · obtain ⟨found, inGiven, same⟩ := List.mem_map.mp ((listed rfl).mem_iff.mpr new)
    have reached := (visited found (listedVisited found inGiven)).1.reached
    exact (reached.resolves resolving).entry_ext resolves same ▸ inGiven

/-- Whatever a descent visits is registered when it is through. -/
theorem Descent.lookup_of_visited (descent : context.Descent targets registry given final none)
    (resolving : ∀ start ∈ targets, context.Resolves start)
    (visited : context.Visited registry targets target) :
    final.lookup target.className = some target.typeName := by
  induction visited with
  | start member => exact descent.registers rfl _ member
  | step before fresh leads ih =>
    have resolves := before.reached.resolves resolving
    exact descent.closes rfl _ (descent.mem_given_of_new resolving resolves fresh ih) _ leads

/-- A descent that no clash breaks off gives out what was new of all that it visits. -/
theorem Descent.mem_given_iff_visited (descent : context.Descent targets registry given final none)
    (resolving : ∀ start ∈ targets, context.Resolves start) :
    target ∈ given ↔
      context.Visited registry targets target ∧ registry.lookup target.className = none := by
  constructor
  · intro member
    obtain ⟨added, _, visited, listed⟩ := descent.registers_visited
    exact visited target (listed target member)
  · rintro ⟨visited, fresh⟩
    exact descent.mem_given_of_new resolving (visited.reached.resolves resolving) fresh
      (descent.lookup_of_visited resolving visited)

/-- A descent gives out no class twice. -/
theorem Descent.classNames_nodup (descent : context.Descent targets registry given final none) :
    (given.map Target.className).Nodup := by
  obtain ⟨added, _, fresh, listed⟩ := descent.accounts
  have classes := ((listed rfl).map Prod.fst).nodup_iff.mpr fresh.distinct
  rwa [List.map_map] at classes

/-- The clash that breaks a descent off is between a type that the descent visits and what the registry
holds for the type's class. -/
theorem Descent.clash_visited {clash : Clash}
    (descent : context.Descent targets registry given final (some clash)) :
    ∃ target, context.Visited registry targets target ∧
      clash = context.clashOf target clash.registered ∧
      final.lookup target.className = some clash.registered ∧
      clash.registered ≠ target.typeName := by
  generalize broken : some clash = last at descent
  induction descent with
  | done => cases broken
  | met _ _ ih =>
    obtain ⟨target, visited, found⟩ := ih broken
    exact ⟨target, visited_later visited, found⟩
  | refused taken differs =>
    cases broken
    exact ⟨_, .start List.mem_cons_self, rfl, taken, differs⟩
  | broken fresh _ ih =>
    obtain ⟨target, visited, found⟩ := ih broken
    exact ⟨target, visited_below fresh visited.of_append, found⟩
  | finished fresh inside _ _ ih =>
    obtain ⟨target, visited, found⟩ := ih broken
    obtain ⟨added, rfl, _⟩ := inside.registers_visited
    rw [List.append_assoc] at visited
    exact ⟨target, visited_later visited.of_append, found⟩

end Context

end SelectionGen.Projection
