import SelectionGen.Proofs.Visits

/-! Builds that share a registry, in any order. Which build gives a type out depends on the order, but what all
of them visit together does not: it is settled by the types they begin with and by the classes that
are registered before the first of them. So whether they all succeed, what is registered in the end and
which projections are given out are the same for every order. -/
namespace SelectionGen.Projection

open Sdl Schema

/-- The build of a type in the class of its own name. -/
def Target.build (target : Target) : Context.Build := .type target.typeName target.1 target.2

namespace Context

variable {context : Context} {targets others given : List Target} {registry final : Registry}
  {ending : Option Clash} {target : Target}

/-- Building a type in the class of its own name is visiting it. -/
theorem buildAs_own (target : Target) (stored : typeAt? context.document target.1 = some target.2)
    (registry : Registry) :
    context.buildAs target.typeName target.1 target.2 registry
      = context.run [.visit target.1] registry := by
  rw [run_visit target stored]
  simp only [buildAs, Target.className, Target.typeName, Target.name]
  cases registry.lookup (className target.2.name.text) with
  | some registered =>
    by_cases same : registered = target.2.name.text
    · simp [same, run, Outcome.reporting]
    · simp [same, clashOf, Target.className, Target.typeName, Target.name]
  | none => simp [Target.entry, Target.className, Target.typeName, Target.name]

/-- Builds one after the other are one walk that visits their types one after the other. -/
theorem performAll_builds (resolving : ∀ target ∈ targets, context.Resolves target)
    (registry : Registry) :
    context.performAll (targets.map Target.build) registry =
      let outcome := context.run (targets.map fun target => .visit target.1) registry
      match outcome.clash with
      | some clash => .error clash
      | none => .ok ({ clientProjections := outcome.projections }, outcome.registry) := by
  induction targets generalizing registry with
  | nil => simp [performAll, run]
  | cons target later ih =>
    have stored := (resolving target List.mem_cons_self).typeAt
    have rest := ih fun other member => resolving other (List.mem_cons_of_mem _ member)
    have together := context.run_append [.visit target.1] (later.map fun target => .visit target.1)
      registry
    rw [List.singleton_append] at together
    simp only [List.map_cons, performAll, perform, Target.build, buildType, buildAs_own target stored,
      together]
    generalize context.run [.visit target.1] registry = own
    obtain ⟨projections, middle, journal, ending⟩ := own
    cases ending with
    | some clash => simp [Outcome.result, Outcome.andThen]
    | none =>
      simp only [Outcome.result, Outcome.andThen]
      rw [rest middle]
      generalize context.run (later.map fun target => .visit target.1) middle = behind
      cases last : behind.clash <;> simp [last, Api.merge]

theorem follows_visits (resolving : ∀ target ∈ targets, context.Resolves target) :
    context.Follows (targets.map fun target => .visit target.1) targets := by
  induction targets with
  | nil => exact .nil
  | cons target later ih =>
    exact .visit (resolving target List.mem_cons_self).typeAt
      (ih fun other member => resolving other (List.mem_cons_of_mem _ member))

/-- Builds of types in the classes of their names are a descent along the types. -/
theorem performAll_descends (resolving : ∀ target ∈ targets, context.Resolves target)
    (registry : Registry) :
    ∃ given final ending, context.Descent targets registry given final ending ∧
      context.performAll (targets.map Target.build) registry =
        match ending with
        | some clash => .error clash
        | none => .ok ({ clientProjections := given.map context.projection }, final) := by
  obtain ⟨given, descent, projected⟩ := run_descends (follows_visits resolving) registry
  exact ⟨given, _, _, descent, by simp only [performAll_builds resolving, projected]⟩

theorem performAll_ok (resolving : ∀ target ∈ targets, context.Resolves target) {api : Api}
    (built : context.performAll (targets.map Target.build) registry = .ok (api, final)) :
    ∃ given, context.Descent targets registry given final none ∧
      api = { clientProjections := given.map context.projection } := by
  obtain ⟨given, last, ending, descent, result⟩ := performAll_descends resolving registry
  rw [built] at result
  cases ending with
  | some clash => cases result
  | none =>
    cases result
    exact ⟨given, descent, rfl⟩

theorem performAll_of_descent (resolving : ∀ target ∈ targets, context.Resolves target)
    (descent : context.Descent targets registry given final none) :
    context.performAll (targets.map Target.build) registry
      = .ok ({ clientProjections := given.map context.projection }, final) := by
  obtain ⟨given', final', ending, descent', result⟩ := performAll_descends resolving registry
  obtain ⟨rfl, rfl, rfl⟩ := descent.unique descent'
  exact result

variable {otherGiven : List Target} {otherFinal : Registry}

theorem visited_of_subset (included : ∀ start ∈ targets, start ∈ others)
    (visited : context.Visited registry targets target) : context.Visited registry others target :=
  visited.mono (fun _ => id) fun start member => .start (included start member)

/-- What is registered after a descent along some types is registered after every descent that gets through
and goes along them and perhaps more, in whatever order. -/
theorem Descent.lookup_of_subset {name typeName : String}
    (descent : context.Descent targets registry given final ending)
    (through : context.Descent others registry otherGiven otherFinal none)
    (resolving : ∀ start ∈ others, context.Resolves start)
    (included : ∀ start ∈ targets, start ∈ others) (known : final.lookup name = some typeName) :
    otherFinal.lookup name = some typeName := by
  rcases descent.lookup_visited known with before | ⟨target, visited, rfl, rfl⟩
  · exact through.keeps before
  · exact through.lookup_of_visited resolving (visited_of_subset included visited)

/-- No clash breaks off a descent along types that another descent gets through along, in whatever order:
of the two types that clash, the other descent registers both. -/
theorem Descent.whole_of_subset (descent : context.Descent targets registry given final ending)
    (through : context.Descent others registry otherGiven otherFinal none)
    (resolving : ∀ start ∈ others, context.Resolves start)
    (included : ∀ start ∈ targets, start ∈ others) : ending = none := by
  cases ending with
  | none => rfl
  | some clash =>
    obtain ⟨target, visited, _, held, differs⟩ := descent.clash_visited
    have registered := descent.lookup_of_subset through resolving included held
    have own := through.lookup_of_visited resolving (visited_of_subset included visited)
    exact absurd (Option.some.inj (registered.symm.trans own)) differs

/-- Two descents along the same types give out the same, up to the order. -/
theorem Descent.given_perm (descent : context.Descent targets registry given final none)
    (other : context.Descent others registry otherGiven otherFinal none)
    (resolving : ∀ start ∈ targets, context.Resolves start) (same : targets.Perm others) :
    given.Perm otherGiven := by
  have resolvingOthers : ∀ start ∈ others, context.Resolves start :=
    fun start member => resolving start (same.mem_iff.mpr member)
  refine (List.perm_ext_iff_of_nodup (List.Nodup.of_map _ descent.classNames_nodup)
    (List.Nodup.of_map _ other.classNames_nodup)).mpr fun target => ?_
  rw [descent.mem_given_iff_visited resolving, other.mem_given_iff_visited resolvingOthers]
  refine and_congr_left fun _ => ⟨visited_of_subset ?_, visited_of_subset ?_⟩
  · exact fun start => same.mem_iff.mp
  · exact fun start => same.mem_iff.mpr

/-- Whether builds succeed does not depend on their order. -/
theorem performAll_ok_of_perm (resolving : ∀ target ∈ targets, context.Resolves target)
    (same : targets.Perm others)
    (done : ∃ result, context.performAll (targets.map Target.build) registry = .ok result) :
    ∃ result, context.performAll (others.map Target.build) registry = .ok result := by
  obtain ⟨⟨api, final⟩, built⟩ := done
  obtain ⟨given, through, _⟩ := performAll_ok resolving built
  have resolvingOthers : ∀ start ∈ others, context.Resolves start :=
    fun start member => resolving start (same.mem_iff.mpr member)
  obtain ⟨_, last, ending, descent, result⟩ := performAll_descends resolvingOthers registry
  obtain rfl := descent.whole_of_subset through resolving fun start => same.mem_iff.mpr
  exact ⟨_, result⟩

/-- **The order of builds does not matter.** Take builds that share a registry, whatever it holds before, each
of a type in the class of the type's name. In every order all of them succeed or none of the orders
has them all succeed; and where they do, the same classes are registered for the same types in the end,
and the same projections are given out, only in another order. -/
theorem builds_commute {context : Context} {registry : Registry} {targets others : List Target}
    (resolving : ∀ target ∈ targets, context.Resolves target) (same : targets.Perm others) :
    ((∃ result, context.performAll (targets.map Target.build) registry = .ok result) ↔
      ∃ result, context.performAll (others.map Target.build) registry = .ok result) ∧
    ∀ api final otherApi otherFinal,
      context.performAll (targets.map Target.build) registry = .ok (api, final) →
      context.performAll (others.map Target.build) registry = .ok (otherApi, otherFinal) →
        (∀ name, final.lookup name = otherFinal.lookup name) ∧
          api.clientProjections.Perm otherApi.clientProjections := by
  have resolvingOthers : ∀ start ∈ others, context.Resolves start :=
    fun start member => resolving start (same.mem_iff.mpr member)
  refine ⟨⟨performAll_ok_of_perm resolving same, performAll_ok_of_perm resolvingOthers same.symm⟩, ?_⟩
  intro api final otherApi otherFinal built otherBuilt
  obtain ⟨given, descent, rfl⟩ := performAll_ok resolving built
  obtain ⟨otherGiven, other, rfl⟩ := performAll_ok resolvingOthers otherBuilt
  refine ⟨fun name => Option.ext fun typeName => ⟨?_, ?_⟩, ?_⟩
  · exact descent.lookup_of_subset other resolvingOthers fun start => same.mem_iff.mp
  · exact other.lookup_of_subset descent resolving fun start => same.mem_iff.mpr
  · exact (descent.given_perm other resolving same).map context.projection

/-- Authors and books lead to one another. Building authors first gives books out before them, and building
books first does so the other way round; nothing else is different. -/
theorem library_builds_commute :
    (∀ target ∈ [Library.author, Library.book], Library.context.Resolves target) ∧
    Library.context.performAll ([Library.author, Library.book].map Target.build) []
      = .ok ({ clientProjections :=
          [Library.context.projection Library.book, Library.context.projection Library.author] },
        [Library.author.entry, Library.book.entry]) ∧
    ∃ api final, Library.context.performAll ([Library.book, Library.author].map Target.build) []
        = .ok (api, final) ∧
      [Library.context.projection Library.book, Library.context.projection Library.author].Perm
        api.clientProjections ∧
      final.lookup Library.book.className = some Library.book.typeName := by
  have resolving : ∀ target ∈ [Library.author, Library.book], Library.context.Resolves target := by
    simp only [List.forall_mem_cons, List.not_mem_nil, false_implies, implies_true, and_true]
    exact ⟨⟨by decide, rfl⟩, ⟨by decide, rfl⟩⟩
  have ofAuthor : Library.context.targets Library.author = [Library.book] := by decide
  have fresh : List.lookup Library.book.className [Library.author.entry] = none := by decide
  have known : List.lookup Library.book.className [Library.author.entry, Library.book.entry]
      = some Library.book.typeName := by decide
  have belowAuthor : Library.context.Descent (Library.context.targets Library.author)
      [Library.author.entry] [Library.book] [Library.author.entry, Library.book.entry] none := by
    rw [ofAuthor]
    exact .alone fresh (by decide) .done
  have descent : Library.context.Descent [Library.author, Library.book] []
      ([Library.book] ++ [Library.author]) [Library.author.entry, Library.book.entry] none :=
    .finished rfl belowAuthor (.met known .done)
  have authorsFirst := performAll_of_descent resolving descent
  have swapped : [Library.author, Library.book].Perm [Library.book, Library.author] := .swap ..
  obtain ⟨together, alike⟩ := builds_commute resolving swapped
  obtain ⟨⟨api, final⟩, booksFirst⟩ := together.mp ⟨_, authorsFirst⟩
  obtain ⟨registered, given⟩ := alike _ _ _ _ authorsFirst booksFirst
  refine ⟨resolving, authorsFirst, api, final, booksFirst, given, ?_⟩
  rw [← registered]
  exact known

end Context

end SelectionGen.Projection
