import SelectionGen.Projection.Picked
import SelectionGen.Proofs.Clashes

/-! Builds that fail, and the registry they leave behind. A clash can break a build off at any depth. Nothing is
given out then, but the classes met on the way stay registered, and whatever is built later goes on from
there. So the registry has to account for a walk that never came to its end: what was in it is untouched,
and what is new belongs to the build itself or to types that its fields lead to. -/
namespace SelectionGen.Projection

open Sdl Schema

theorem Outcome.result_eq_error_iff {outcome : Outcome} {roots : List SelectionGen.Projection}
    {clash : Clash} : outcome.result roots = .error clash ↔ outcome.clash = some clash := by
  cases ending : outcome.clash with
  | none => simp [Outcome.result, ending]
  | some other => simp [Outcome.result, ending]

namespace Context

/-- The entry that a build makes on its own account. A root is not registered. -/
def Build.own? : Build → Option (String × String)
  | .type baseName _ definition => some (className baseName, definition.name.text)
  | .root _ _ => none

/-- The types that the fields of what is built lead to. -/
def followed (context : Context) : Build → List Target
  | .type _ position definition => context.targets (position, definition)
  | .root position definition => context.rootTargets position definition

/-- How a build ends: its own class was registered before, for its own type or for another one, or the build
makes its own entry and follows its fields, to the end or up to a clash. -/
inductive Ends (context : Context) (build : Build) (registry : Registry) :
    Registry → Option Clash → Prop
  | met (makes : build.own? = some own) (known : registry.lookup own.1 = some own.2) :
      Ends context build registry registry none
  | refused (makes : build.own? = some own) (taken : registry.lookup own.1 = some registered)
      (differs : registered ≠ own.2) :
      Ends context build registry registry
        (some ⟨context.settings.clientPackage, own.1, registered, own.2⟩)
  | descended (fresh : ∀ own ∈ build.own?, registry.lookup own.1 = none)
      (entered : start = registry ++ build.own?.toList)
      (descent : context.Descent (context.followed build) start given final ending) :
      Ends context build registry final ending

/-- What is new in a registry is the entry a build makes for itself, if it makes one, with entries of types
that fields lead to behind it, and each class is registered once. -/
structure Accountable (context : Context) (own? : Option (String × String)) (starts : List Target)
    (registry final : Registry) : Prop where
  appended : final = registry ∨ ∃ added : List Target,
    final = registry ++ (own?.toList ++ added.map Target.entry) ∧
      ∀ target ∈ added, context.Reached starts target ∧ context.Resolves target
  distinct : (registry.map Prod.fst).Nodup → (final.map Prod.fst).Nodup

/-- What a build that a clash broke off leaves behind. The clash is between what the registry holds for the
class and another type of that class: the one built, and then nothing is new, or one that the fields of
what is built lead to. -/
structure LeftBehind (context : Context) (own? : Option (String × String)) (starts : List Target)
    (registry : Registry) (clash : Clash) (final : Registry) : Prop
    extends Accountable context own? starts registry final where
  package : clash.package = context.settings.clientPackage
  held : final.lookup clash.className = some clash.registered
  differs : clash.refused ≠ clash.registered
  refused : (own? = some (clash.className, clash.refused) ∧ final = registry) ∨
    ∃ target, context.Reached starts target ∧ context.Resolves target ∧
      target.entry = (clash.className, clash.refused)

variable {context : Context} {build : Build} {registry final : Registry} {clash : Clash}
  {ending : Option Clash} {target : Target} {own? : Option (String × String)}
  {targets given : List Target}

theorem resolves_of_mem_followed (member : target ∈ context.followed build) : context.Resolves target := by
  cases build with
  | type => exact resolves_of_mem_targets member
  | root => exact resolves_of_mem_rootTargets member

/-- Every build ends in one of these ways. -/
theorem perform_ends (context : Context) (registry : Registry) (build : Build) :
    context.Ends build registry (context.perform registry build).2.registry
      (context.perform registry build).2.clash := by
  cases build with
  | root position definition =>
    obtain ⟨given, descent, _⟩ := run_descends (context.follows_rootTasks position definition) registry
    exact .descended (by simp [Build.own?]) (List.append_nil _).symm descent
  | type baseName position definition =>
    simp only [perform, buildType]
    cases looked : registry.lookup (className baseName) with
    | none =>
      obtain ⟨given, descent, _⟩ := context.buildAs_descends position definition looked
      exact .descended (by simpa [Build.own?] using looked) rfl descent
    | some registered =>
      have makes : (Build.type baseName position definition).own?
          = some (className baseName, definition.name.text) := rfl
      by_cases same : registered = definition.name.text
      · simp only [buildAs, looked, if_pos same]
        exact .met makes (looked.trans (congrArg some same))
      · simp only [buildAs, looked, if_neg same]
        exact .refused makes looked same

/-- There is one way only for a build to end. -/
theorem Ends.unique {final' : Registry} {ending' : Option Clash}
    (first : context.Ends build registry final ending)
    (second : context.Ends build registry final' ending') : final = final' ∧ ending = ending' := by
  cases first with
  | met makes known =>
    cases second with
    | met => exact ⟨rfl, rfl⟩
    | refused again taken differs =>
      cases makes.symm.trans again
      exact absurd (Option.some.inj (taken.symm.trans known)) differs
    | descended fresh => simp [fresh _ makes] at known
  | refused makes taken differs =>
    cases second with
    | met again known =>
      cases makes.symm.trans again
      exact absurd (Option.some.inj (taken.symm.trans known)) differs
    | refused again takenToo =>
      cases makes.symm.trans again
      cases taken.symm.trans takenToo
      exact ⟨rfl, rfl⟩
    | descended fresh => simp [fresh _ makes] at taken
  | descended fresh entered descent =>
    cases second with
    | met makes known => simp [fresh _ makes] at known
    | refused makes taken => simp [fresh _ makes] at taken
    | descended _ enteredToo other =>
      subst entered enteredToo
      exact (descent.unique other).2

/-- A build fails with a clash exactly when that ends it. -/
theorem perform_failed_iff :
    ((context.perform registry build).1 = .error clash ∧
        (context.perform registry build).2.registry = final) ↔
      context.Ends build registry final (some clash) := by
  have ends := context.perform_ends registry build
  have result : (context.perform registry build).1 = .error clash ↔
      (context.perform registry build).2.clash = some clash := by
    cases build with
    | type => exact Outcome.result_eq_error_iff
    | root => exact Outcome.result_eq_error_iff
  rw [result]
  constructor
  · rintro ⟨broken, rfl⟩
    exact broken ▸ ends
  · intro other
    obtain ⟨same, broken⟩ := ends.unique other
    exact ⟨broken, same⟩

/-- A descent accounts for what it adds, wherever it stops. -/
theorem Descent.accountable (fresh : ∀ entry ∈ own?, registry.lookup entry.1 = none)
    (resolving : ∀ start ∈ targets, context.Resolves start)
    (descent : context.Descent targets (registry ++ own?.toList) given final ending) :
    context.Accountable own? targets registry final where
  appended := by
    obtain ⟨added, shape, visited, _⟩ := descent.registers_visited
    refine .inr ⟨added, by rw [shape, List.append_assoc], fun target member => ?_⟩
    have reached := (visited target member).1.reached
    exact ⟨reached, reached.resolves resolving⟩
  distinct := by
    intro distinct
    obtain ⟨added, rfl, new, _⟩ := descent.accounts
    have ownNew : Fresh registry own?.toList := by
      cases own? with
      | none => exact .nil
      | some entry => exact .single entry (fresh entry rfl)
    exact new.keys_nodup (ownNew.keys_nodup distinct)

theorem accountable_same (own? : Option (String × String)) (starts : List Target) (registry : Registry) :
    context.Accountable own? starts registry registry :=
  ⟨.inl rfl, id⟩

/-- However a build ends, what is new in the registry is accounted for. -/
theorem Ends.accountable (ends : context.Ends build registry final ending) :
    context.Accountable build.own? (context.followed build) registry final := by
  cases ends with
  | met | refused => exact accountable_same ..
  | descended fresh entered descent => exact (entered ▸ descent).accountable fresh fun _ => resolves_of_mem_followed

theorem Ends.leftBehind (ends : context.Ends build registry final (some clash)) :
    context.LeftBehind build.own? (context.followed build) registry clash final := by
  have accountable := ends.accountable
  cases ends with
  | refused makes taken differs =>
    exact
      { accountable with
        package := rfl
        held := taken
        differs := differs.symm
        refused := .inl ⟨makes, rfl⟩ }
  | descended fresh entered descent =>
    obtain ⟨target, reached, shape, held, differs⟩ := descent.clash_reached
    have className : clash.className = target.className := by rw [shape]; rfl
    have refused : clash.refused = target.typeName := by rw [shape]; rfl
    have resolves := reached.resolves fun _ => resolves_of_mem_followed
    exact
      { accountable with
        package := by rw [shape]; rfl
        held := by rw [className, held]
        differs := by rw [refused]; exact differs.symm
        refused := .inr ⟨target, reached, resolves, by rw [className, refused]; rfl⟩ }

theorem Accountable.mem_cases {starts : List Target} {entry : String × String}
    (accountable : context.Accountable own? starts registry final) (member : entry ∈ final) :
    entry ∈ registry ∨ own? = some entry ∨
      ∃ target, context.Reached starts target ∧ target.entry = entry := by
  rcases accountable.appended with rfl | ⟨added, rfl, reached⟩
  · exact .inl member
  rcases List.mem_append.mp member with old | new
  · exact .inl old
  rcases List.mem_append.mp new with own | below
  · exact .inr (.inl (Option.mem_toList.mp own))
  · obtain ⟨target, inAdded, same⟩ := List.mem_map.mp below
    exact .inr (.inr ⟨target, (reached target inAdded).1, same⟩)

/-- Builds one after the other, where what fails is given up and the next one goes on with what it left. -/
def registryAfter (context : Context) (builds : List Build) (registry : Registry) : Registry :=
  builds.foldl (fun before build => (context.perform before build).2.registry) registry

/-- Whichever builds fail, in the end each class is registered once, what was registered first still is, and
each new entry belongs to one of the builds. -/
theorem registryAfter_accountable (builds : List Build) (registry : Registry) :
    (∃ added, context.registryAfter builds registry = registry ++ added) ∧
    ((registry.map Prod.fst).Nodup → ((context.registryAfter builds registry).map Prod.fst).Nodup) ∧
    ∀ entry ∈ context.registryAfter builds registry, entry ∈ registry ∨ ∃ build ∈ builds,
      build.own? = some entry ∨
        ∃ target, context.Reached (context.followed build) target ∧ target.entry = entry := by
  induction builds generalizing registry with
  | nil => exact ⟨⟨[], (List.append_nil _).symm⟩, id, fun _ => .inl⟩
  | cons build rest ih =>
    have first := (context.perform_ends registry build).accountable
    have after : context.registryAfter (build :: rest) registry
        = context.registryAfter rest (context.perform registry build).2.registry := rfl
    obtain ⟨⟨added, appended⟩, distinct, accounted⟩ := ih (context.perform registry build).2.registry
    rw [after]
    refine ⟨?_, fun before => distinct (first.distinct before), fun entry member => ?_⟩
    · rcases first.appended with same | ⟨own, grown, _⟩
      · exact ⟨added, by rw [appended, same]⟩
      · exact ⟨_, by rw [appended, grown, List.append_assoc]⟩
    · rcases accounted entry member with early | ⟨other, inRest, owner⟩
      · rcases first.mem_cases early with old | owner
        · exact .inl old
        · exact .inr ⟨build, List.mem_cons_self, owner⟩
      · exact .inr ⟨other, List.mem_cons_of_mem _ inRest, owner⟩

private theorem mapError_clash_iff {result : Except Clash Api} :
    result.mapError BuildError.clash = .error (.clash clash) ↔ result = .error clash := by
  cases result <;> simp [Except.mapError]

/-- What is picked fails with a clash as the type it counts as does, unless it is an input object whose fields
are at fault first. -/
theorem buildTypeAt_failed_iff {baseName : String} {position : Nat} :
    context.buildTypeAt baseName position registry = (.error (.clash clash), final) ↔
      ∃ definition, subjectAt context.document position = .ok definition ∧
        ((registry.lookup (className baseName)).isNone && context.startsWithInputField definition) = false ∧
        context.Ends (.type baseName position definition) registry final (some clash) := by
  rw [buildTypeAt]
  cases subjectAt context.document position with
  | error error => simp
  | ok definition =>
    simp only [Except.ok.injEq, exists_eq_left', ← perform_failed_iff, perform]
    cases ((registry.lookup (className baseName)).isNone && context.startsWithInputField definition) with
    | true => simp
    | false => simp [mapError_clash_iff]

theorem buildRootAt_failed_iff {position : Nat} :
    context.buildRootAt position registry = (.error (.clash clash), final) ↔
      ∃ definition, subjectAt context.document position = .ok definition ∧
        context.Ends (.root position definition) registry final (some clash) := by
  rw [buildRootAt]
  cases subjectAt context.document position with
  | error error => simp
  | ok definition => simp [← perform_failed_iff, perform, mapError_clash_iff]

/-- **A build that a clash breaks off leaves a registry that accounts for itself.** The registry is the one
before with new entries behind it, each class once. Apart from the entry that a type makes for itself,
under the class it is built as, each new entry is that of a type which the surviving fields of what is
built lead to. The clash is between what the registry left behind holds for a class and another type
that asks for the same class: the one that is built, or one that the fields lead to. -/
theorem failed_build_accountable (context : Context) (position : Nat) (registry final : Registry)
    (clash : Clash) :
    (∀ baseName, context.buildTypeAt baseName position registry = (.error (.clash clash), final) →
      ∃ definition, subjectAt context.document position = .ok definition ∧
        context.LeftBehind (some (className baseName, definition.name.text))
          (context.targets (position, definition)) registry clash final) ∧
    (context.buildRootAt position registry = (.error (.clash clash), final) →
      ∃ definition, subjectAt context.document position = .ok definition ∧
        context.LeftBehind none (context.rootTargets position definition) registry clash final) := by
  constructor
  · intro baseName failed
    obtain ⟨definition, subject, _, ends⟩ := buildTypeAt_failed_iff.mp failed
    exact ⟨definition, subject, ends.leftBehind⟩
  · intro failed
    obtain ⟨definition, subject, ends⟩ := buildRootAt_failed_iff.mp failed
    exact ⟨definition, subject, ends.leftBehind⟩

end Context

/-! The people once more, from a registry that holds another type. -/
namespace People

def before : Registry := [("OtherProjection", "Other")]

/-- Both persons ask for one class, so the second one breaks off whatever comes to them. -/
theorem descent_refused {registry : Registry} (fresh : registry.lookup lower.className = none) :
    context.Descent [lower, upper] registry [lower] (registry ++ [lower.entry])
      (some (context.clashOf upper lower.typeName)) := by
  have leads : context.targets lower = [] := by decide
  have taken : (registry ++ [lower.entry]).lookup upper.className = some lower.typeName := by
    have same : upper.className = lower.className := by decide
    simp [List.lookup_append, same, fresh, Target.entry]
  exact .alone fresh (by simp [leads]) (.refused taken (by decide))

theorem subject_query : subjectAt context.document 2 = .ok query := rfl

theorem root_fails :
    context.buildRootAt 2 before
      = (.error (.clash (context.clashOf upper "person")), before ++ [lower.entry]) := by
  have leads : context.followed (.root 2 query) = [lower, upper] := by decide
  have descent : context.Descent (context.followed (.root 2 query)) before [lower] (before ++ [lower.entry])
      (some (context.clashOf upper "person")) := leads ▸ descent_refused rfl
  exact Context.buildRootAt_failed_iff.mpr ⟨query, subject_query, .descended (by rintro _ ⟨⟩) rfl descent⟩

theorem type_fails :
    context.buildTypeAt "guests" 2 before
      = (.error (.clash (context.clashOf upper "person")),
        before ++ [("GuestsProjection", "Query")] ++ [lower.entry]) := by
  have leads : context.followed (.type "guests" 2 query) = [lower, upper] := by
    change context.targets (2, query) = [lower, upper]
    decide
  have own : (Context.Build.type "guests" 2 query).own? = some ("GuestsProjection", "Query") := by
    decide
  have descent : context.Descent (context.followed (.type "guests" 2 query))
      (before ++ [("GuestsProjection", "Query")]) [lower]
      (before ++ [("GuestsProjection", "Query")] ++ [lower.entry])
      (some (context.clashOf upper "person")) := leads ▸ descent_refused rfl
  refine Context.buildTypeAt_failed_iff.mpr ⟨query, subject_query, rfl, .descended ?_ ?_ descent⟩
  · rw [own]
    rintro _ ⟨⟩
    rfl
  · rw [own]
    rfl

theorem taken_fails :
    context.buildTypeAt "other" 2 before
      = (.error (.clash ⟨context.settings.clientPackage, "OtherProjection", "Other", "Query"⟩), before) := by
  have own : (Context.Build.type "other" 2 query).own? = some ("OtherProjection", "Query") := by
    decide
  have taken : before.lookup "OtherProjection" = some "Other" := by decide
  exact Context.buildTypeAt_failed_iff.mpr
    ⟨query, subject_query, rfl, .refused own taken (by decide)⟩

/-- The class that the query is built as stays registered behind the one there was, and so does that of the
first person. Where the class is taken, nothing is added. -/
theorem people_left_behind :
    (context.buildRootAt 2 before
        = (.error (.clash (context.clashOf upper "person")), before ++ [lower.entry]) ∧
      context.LeftBehind none (context.rootTargets 2 query) before (context.clashOf upper "person")
        (before ++ [lower.entry])) ∧
    (context.buildTypeAt "guests" 2 before
        = (.error (.clash (context.clashOf upper "person")),
          before ++ [("GuestsProjection", "Query")] ++ [lower.entry]) ∧
      context.LeftBehind (some ("GuestsProjection", "Query")) (context.targets (2, query)) before
        (context.clashOf upper "person") (before ++ [("GuestsProjection", "Query")] ++ [lower.entry])) ∧
    context.buildTypeAt "other" 2 before
        = (.error (.clash ⟨context.settings.clientPackage, "OtherProjection", "Other", "Query"⟩), before) ∧
      context.LeftBehind (some ("OtherProjection", "Query")) (context.targets (2, query)) before
        ⟨context.settings.clientPackage, "OtherProjection", "Other", "Query"⟩ before := by
  have guests : className "guests" = "GuestsProjection" := by decide
  have other : className "other" = "OtherProjection" := by decide
  have only : ∀ definition, subjectAt context.document 2 = .ok definition → definition = query :=
    fun _ found => Except.ok.inj (found.symm.trans subject_query)
  refine ⟨⟨root_fails, ?_⟩, ⟨type_fails, ?_⟩, taken_fails, ?_⟩
  · obtain ⟨definition, found, left⟩ := (context.failed_build_accountable 2 _ _ _).2 root_fails
    exact only definition found ▸ left
  · obtain ⟨definition, found, left⟩ := (context.failed_build_accountable 2 _ _ _).1 _ type_fails
    rw [guests, only definition found] at left
    exact left
  · obtain ⟨definition, found, left⟩ := (context.failed_build_accountable 2 _ _ _).1 _ taken_fails
    rw [other, only definition found] at left
    exact left

end People

end SelectionGen.Projection
