import SelectionGen.Proofs.Reachability

/-! When types of one schema cannot be told apart in the generated code. A class is named after its type with
the first letter in upper case, so names that differ in that letter's case alone ask for one class. A
run is broken off exactly when its root leads to two such types, however the walk meets them; the root
itself asks for no class of the client and clashes with nothing. -/
namespace SelectionGen.Projection

open Sdl Schema

/-- The names are the same but for the case of their first letter. -/
def SameButFirstCase (first second : Name) : Prop :=
  ∃ c d rest, first.text.toList = c :: rest ∧ second.text.toList = d :: rest ∧ c.toUpper = d.toUpper

/-- Names begin with a character of the basic alphabet, whose upper case is one character. -/
theorem upperCase_of_start {c : Char} (start : isNameStart c = true) :
    Text.upperCase c = [c.toUpper] := by
  have basic : c.toNat < 0x80 := by
    rcases cases_of_isNameStart start with upper | lower | rfl
    · omega
    · omega
    · decide
  simp [Text.upperCase, basic]

theorem capitalized_name (name : Name) :
    ∃ c rest, name.text.toList = c :: rest ∧
      (className name.text).toList = c.toUpper :: (rest ++ "Projection".toList) := by
  have spelled := name.spelled
  cases shape : name.text.toList with
  | nil => simp [shape, isName] at spelled
  | cons c rest =>
    simp only [shape, isName, Bool.and_eq_true] at spelled
    refine ⟨c, rest, rfl, ?_⟩
    simp [className, Text.capitalized, shape, upperCase_of_start spelled.1]

/-- Names ask for one class exactly when they are the same but for the case of their first letter. -/
theorem className_eq_iff {first second : Name} :
    className first.text = className second.text ↔ SameButFirstCase first second := by
  obtain ⟨c, front, firstShape, firstClass⟩ := capitalized_name first
  obtain ⟨d, back, secondShape, secondClass⟩ := capitalized_name second
  constructor
  · intro same
    rw [← String.toList_inj, firstClass, secondClass] at same
    obtain ⟨upper, rest⟩ := List.cons.inj same
    exact ⟨c, d, front, firstShape, by rw [secondShape, List.append_cancel_right rest], upper⟩
  · rintro ⟨c', d', rest, firstShape', secondShape', upper⟩
    rw [firstShape] at firstShape'
    rw [secondShape] at secondShape'
    cases firstShape'
    cases secondShape'
    rw [← String.toList_inj, firstClass, secondClass, upper]

namespace Context

variable {context : Context} {targets given : List Target} {registry final : Registry}
  {clash : Clash}

/-- The clash that breaks a descent off is between a type that the descent comes to and what the registry
holds for the type's class. -/
theorem Descent.clash_reached
    (descent : context.Descent targets registry given final (some clash)) :
    ∃ target, context.Reached targets target ∧ clash = context.clashOf target clash.registered ∧
      final.lookup target.className = some clash.registered ∧
      clash.registered ≠ target.typeName := by
  obtain ⟨target, visited, found⟩ := descent.clash_visited
  exact ⟨target, visited.reached, found⟩

/-- A reported clash is between two types that the root leads to, the one met first in front. -/
theorem generate_error_reached {position : Nat} {definition : TypeDefinition}
    (broken : (context.generate position definition).1 = .error clash) :
    clash.package = context.settings.clientPackage ∧
      ∃ first second, context.Reached (context.rootTargets position definition) first ∧
        context.Reached (context.rootTargets position definition) second ∧
        first.typeName = clash.registered ∧ second.typeName = clash.refused ∧
        first.name ≠ second.name ∧
        first.className = clash.className ∧ second.className = clash.className := by
  obtain ⟨given, final, descent⟩ := generate_error broken
  obtain ⟨second, reachedSecond, shape, held, differs⟩ := descent.clash_reached
  rcases descent.entries_reached _ (Registry.mem_of_lookup held) with old | ⟨first, reachedFirst, same⟩
  · cases old
  obtain ⟨sameClass, sameType⟩ := Prod.mk.inj same
  have className : clash.className = second.className := by rw [shape]; rfl
  have refused : clash.refused = second.typeName := by rw [shape]; rfl
  refine ⟨by rw [shape]; rfl, first, second, reachedFirst, reachedSecond, sameType.symm,
    refused.symm, fun named => differs ?_, sameClass.symm.trans className.symm, className.symm⟩
  rw [sameType]
  exact congrArg Name.text named

/-- In a run that is not broken off the types that the root leads to have distinct classes. -/
theorem generate_ok_injective {position : Nat} {definition : TypeDefinition} {api : Api}
    (done : (context.generate position definition).1 = .ok api) {first second : Target}
    (reachedFirst : context.Reached (context.rootTargets position definition) first)
    (reachedSecond : context.Reached (context.rootTargets position definition) second)
    (same : first.className = second.className) : first.name = second.name := by
  obtain ⟨given, final, descent, _⟩ := generate_ok done
  have resolving : ∀ start ∈ context.rootTargets position definition, context.Resolves start :=
    fun _ => resolves_of_mem_rootTargets
  have firstHeld := descent.lookup_of_reached resolving reachedFirst
  have secondHeld := descent.lookup_of_reached resolving reachedSecond
  rw [same, secondHeld] at firstHeld
  exact Name.ext (Option.some.inj firstHeld).symm

/-- Two types of different names that a root leads to ask for one class. -/
def Clashing (context : Context) (position : Nat) (definition : TypeDefinition) : Prop :=
  ∃ first second, context.Reached (context.rootTargets position definition) first ∧
    context.Reached (context.rootTargets position definition) second ∧
    first.name ≠ second.name ∧ first.className = second.className

/-- A run is broken off exactly when its root leads to clashing types. -/
theorem generate_error_iff {position : Nat} {definition : TypeDefinition} :
    (∃ clash, (context.generate position definition).1 = .error clash) ↔
      context.Clashing position definition := by
  constructor
  · rintro ⟨clash, broken⟩
    obtain ⟨_, first, second, reachedFirst, reachedSecond, _, _, differ, firstClass, secondClass⟩ :=
      generate_error_reached broken
    exact ⟨first, second, reachedFirst, reachedSecond, differ, firstClass.trans secondClass.symm⟩
  · rintro ⟨first, second, reachedFirst, reachedSecond, differ, same⟩
    cases result : (context.generate position definition).1 with
    | error clash => exact ⟨clash, rfl⟩
    | ok api => exact absurd (generate_ok_injective result reachedFirst reachedSecond same) differ

/-- A run that is not broken off has a result. -/
theorem generate_ok_iff {position : Nat} {definition : TypeDefinition} :
    (∃ api, (context.generate position definition).1 = .ok api) ↔
      ¬ context.Clashing position definition := by
  rw [← generate_error_iff]
  cases result : (context.generate position definition).1 with
  | error clash => simp
  | ok api => simp

/-- Which clash breaks a run off depends on the types that the fields of the root lead to, and on nothing
else about the root. -/
theorem generate_error_of_targets {position otherPosition : Nat}
    {definition otherDefinition : TypeDefinition}
    (same : context.rootTargets position definition
      = context.rootTargets otherPosition otherDefinition)
    (broken : (context.generate position definition).1 = .error clash) :
    (context.generate otherPosition otherDefinition).1 = .error clash := by
  obtain ⟨given, final, descent⟩ := generate_error broken
  obtain ⟨given', final', ending, other, result⟩ :=
    generate_cases context otherPosition otherDefinition
  rw [same] at descent
  obtain ⟨-, -, rfl⟩ := descent.unique other
  exact result

/-- **Clashes are reported exactly when there are some.** A run is broken off if its root leads to two types
of different names that ask for one class, which is to say that their names differ in the case of the
first letter only, and otherwise has a result. The clash it reports is one between such types. The root
takes no part: its class is compared with none, so where a type that its fields lead to asks for a class of
the same name, whatever that type is called, both are given out under it. And a root of any other name
whose fields lead to the same types is broken off by the same clashes. -/
theorem generate_clashes_exactly (context : Context) (position : Nat) (definition : TypeDefinition) :
    ((∃ clash, (context.generate position definition).1 = .error clash) ↔
      context.Clashing position definition) ∧
    ((∃ api, (context.generate position definition).1 = .ok api) ↔
      ¬ context.Clashing position definition) ∧
    (∀ first second : Target, first.className = second.className ↔
      SameButFirstCase first.name second.name) ∧
    (∀ clash, (context.generate position definition).1 = .error clash →
      clash.package = context.settings.clientPackage ∧
        ∃ first second, context.Reached (context.rootTargets position definition) first ∧
          context.Reached (context.rootTargets position definition) second ∧
          first.typeName = clash.registered ∧ second.typeName = clash.refused ∧
          first.name ≠ second.name ∧
          first.className = clash.className ∧ second.className = clash.className) ∧
    (∀ api, (context.generate position definition).1 = .ok api → ∃ root,
      api.queryTypes = [root] ∧ root.name = className definition.name.text ∧
        ∀ target, context.Reached (context.rootTargets position definition) target →
          target.className = root.name →
          ∃ client ∈ api.clientProjections, client.sourceType = target.typeName ∧ client.name = root.name) ∧
    (∀ otherPosition otherDefinition,
      context.rootTargets position definition
        = context.rootTargets otherPosition otherDefinition →
      ∀ clash, (context.generate position definition).1 = .error clash ↔
        (context.generate otherPosition otherDefinition).1 = .error clash) := by
  refine ⟨generate_error_iff, generate_ok_iff, fun _ _ => className_eq_iff,
    fun _ broken => generate_error_reached broken, fun api done => ?_, ?_⟩
  · obtain ⟨given, final, descent, rfl⟩ := generate_ok done
    refine ⟨_, rfl, rfl, fun target reached same => ?_⟩
    have inGiven := (descent.mem_given_iff fun _ => resolves_of_mem_rootTargets).mpr reached
    exact ⟨context.projection target, List.mem_map_of_mem inGiven, rfl, same⟩
  · intro otherPosition otherDefinition same clash
    exact ⟨generate_error_of_targets same, generate_error_of_targets same.symm⟩

end Context

/-! A schema that calls a person by two names. -/
namespace People

def lower : Target where
  fst := 0
  snd.kind := .object
  snd.name := ⟨"person", by decide +kernel⟩

def upper : Target where
  fst := 1
  snd.kind := .object
  snd.name := ⟨"Person", by decide +kernel⟩

def query : TypeDefinition where
  kind := .object
  name := customaryQuery
  fields :=
    [{ name := ⟨"guest", by decide +kernel⟩, type := ⟨[], lower.name⟩ },
     { name := ⟨"host", by decide +kernel⟩, type := ⟨[], upper.name⟩ }]

def context : Context := ⟨{}, [.type lower.2, .type upper.2, .type query]⟩

/-- Both persons are asked for, so neither gets a class. -/
theorem people_clash : context.Clashing 2 query ∧
    ∃ clash, (context.generate 2 query).1 = .error clash ∧
      clash.package = context.settings.clientPackage := by
  have followed : context.rootTargets 2 query = [lower, upper] := by decide
  have lowerReached : context.Reached (context.rootTargets 2 query) lower :=
    .start (by simp [followed])
  have upperReached : context.Reached (context.rootTargets 2 query) upper :=
    .start (by simp [followed])
  have clashing : context.Clashing 2 query :=
    ⟨lower, upper, lowerReached, upperReached, by decide, by decide⟩
  obtain ⟨broken, _, _, reported, _⟩ := context.generate_clashes_exactly 2 query
  obtain ⟨clash, result⟩ := broken.mpr clashing
  exact ⟨clashing, clash, result, (reported clash result).1⟩

end People

/-! Runs of which one follows all that the other follows. Where the surviving fields of every type lead to no
less in a second context than in a first one, whatever a root leads to in the first it leads to in the
second. The two walks need not go side by side: a field more can change the way on which a type is met
and the order in which types are given out, but not that the type is given out. -/
namespace Context

/-- The fields of a type that the first context knows lead to no less in the second. -/
def Within (first second : Context) : Prop :=
  ∀ target, first.Resolves target → first.targets target ⊆ second.targets target

variable {first second : Context} {starts more given otherGiven : List Target} {target : Target}
  {final otherFinal : Registry} {position otherPosition : Nat}
  {definition otherDefinition : TypeDefinition}

theorem Reached.within (within : first.Within second) (resolving : ∀ start ∈ starts, first.Resolves start)
    (included : starts ⊆ more) (reached : first.Reached starts target) :
    second.Reached more target := by
  induction reached with
  | start member => exact .start (included member)
  | step before leads ih => exact .step ih (within _ (before.resolves resolving) leads)

/-- Of two types that clash in the smaller run both are met in the larger one. -/
theorem Clashing.within (within : first.Within second)
    (roots : first.rootTargets position definition ⊆ second.rootTargets otherPosition otherDefinition)
    (clashing : first.Clashing position definition) :
    second.Clashing otherPosition otherDefinition := by
  obtain ⟨one, other, reachedOne, reachedOther, differ, same⟩ := clashing
  have resolving : ∀ start ∈ first.rootTargets position definition, first.Resolves start :=
    fun _ => resolves_of_mem_rootTargets
  exact ⟨one, other, reachedOne.within within resolving roots,
    reachedOther.within within resolving roots, differ, same⟩

/-- Where the larger run has a result, so has the smaller one. -/
theorem generate_ok_of_within (within : first.Within second)
    (roots : first.rootTargets position definition ⊆ second.rootTargets otherPosition otherDefinition)
    (done : ∃ api, (second.generate otherPosition otherDefinition).1 = .ok api) :
    ∃ api, (first.generate position definition).1 = .ok api := by
  rw [generate_ok_iff] at done ⊢
  exact fun clashing => done (clashing.within within roots)

/-- Whatever the smaller run gives out for a type has a counterpart that the larger run gives out for the
same type. -/
theorem projections_of_within {related : SelectionGen.Projection → SelectionGen.Projection → Prop}
    {small large : Api} (within : first.Within second)
    (roots : first.rootTargets position definition ⊆ second.rootTargets otherPosition otherDefinition)
    (alike : ∀ target, first.Resolves target →
      related (first.projection target) (second.projection target))
    (done : (first.generate position definition).1 = .ok small)
    (otherDone : (second.generate otherPosition otherDefinition).1 = .ok large) :
    ∀ projection ∈ small.clientProjections,
      ∃ other ∈ large.clientProjections, related projection other := by
  obtain ⟨given, final, descent, rfl⟩ := generate_ok done
  obtain ⟨otherGiven, otherFinal, otherDescent, rfl⟩ := generate_ok otherDone
  have resolving : ∀ start ∈ first.rootTargets position definition, first.Resolves start :=
    fun _ => resolves_of_mem_rootTargets
  intro projection member
  obtain ⟨target, inGiven, rfl⟩ := List.mem_map.mp member
  have reached := descent.given_reached target inGiven
  have alsoGiven : target ∈ otherGiven :=
    (otherDescent.mem_given_iff fun _ => resolves_of_mem_rootTargets).mpr
      (reached.within within resolving roots)
  exact ⟨_, List.mem_map_of_mem alsoGiven, alike target (reached.resolves resolving)⟩

end Context

end SelectionGen.Projection
