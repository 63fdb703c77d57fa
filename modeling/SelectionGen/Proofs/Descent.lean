import SelectionGen.Proofs.TypeGraph
import SelectionGen.Schema.Lookup

/-! The walk call by call. A descent follows a list of types, each with everything below it before the next,
and lists the types in the order in which their projections are given out. The agenda that a walk
works off is such a descent, so that what holds of every walk follows by induction on descents and
nothing has to be known about pending tasks. -/
namespace SelectionGen.Projection

open Sdl Schema

namespace Outcome

/-- Goes on from where an outcome ended, unless a clash broke it off. -/
def andThen (outcome : Outcome) (next : Registry → Outcome) : Outcome :=
  match outcome.clash with
  | some _ => outcome
  | none =>
    let after := next outcome.registry
    { projections := outcome.projections ++ after.projections
      registry := after.registry
      journal := outcome.journal ++ after.journal
      clash := after.clash }

@[simp] theorem andThen_start (registry : Registry) (next : Registry → Outcome) :
    andThen { registry } next = next registry := rfl

@[simp] theorem andThen_clash (registry : Registry) (clash : Clash) (next : Registry → Outcome) :
    andThen { registry, clash := some clash } next = { registry, clash := some clash } := rfl

@[simp] theorem reporting_andThen (event : Event) (outcome : Outcome) (next : Registry → Outcome) :
    (outcome.reporting event).andThen next = (outcome.andThen next).reporting event := by
  cases ending : outcome.clash <;> simp [andThen, reporting, ending]

@[simp] theorem giving_andThen (projection : SelectionGen.Projection) (outcome : Outcome)
    (next : Registry → Outcome) :
    (outcome.giving projection).andThen next = (outcome.andThen next).giving projection := by
  cases ending : outcome.clash <;> simp [andThen, giving, ending]

end Outcome

namespace Context

/-- The clash of a type with the one its class is registered for. -/
def clashOf (context : Context) (target : Target) (registered : String) : Clash :=
  ⟨context.settings.clientPackage, target.className, registered, target.typeName⟩

/-- How following types one after the other goes: what is given out, the registry left behind, and the
clash that broke it off, if one did. -/
inductive Descent (context : Context) :
    List Target → Registry → List Target → Registry → Option Clash → Prop
  | done : Descent context [] registry [] registry none
  | met (known : registry.lookup target.className = some target.typeName)
      (rest : Descent context later registry given final ending) :
      Descent context (target :: later) registry given final ending
  | refused (taken : registry.lookup target.className = some registered)
      (differs : registered ≠ target.typeName) :
      Descent context (target :: later) registry [] registry
        (some (context.clashOf target registered))
  | broken (fresh : registry.lookup target.className = none)
      (inside : Descent context (context.targets target) (registry ++ [target.entry]) given final
        (some clash)) :
      Descent context (target :: later) registry given final (some clash)
  | finished (fresh : registry.lookup target.className = none)
      (inside : Descent context (context.targets target) (registry ++ [target.entry]) below middle
        none)
      (rest : Descent context later middle after final ending) :
      Descent context (target :: later) registry (below ++ target :: after) final ending

/-- The agenda visits these types in this order and ends none of them. -/
inductive Follows (context : Context) : List Task → List Target → Prop
  | nil : Follows context [] []
  | report (rest : Follows context tasks later) : Follows context (.report event :: tasks) later
  | visit (stored : typeAt? context.document target.1 = some target.2)
      (rest : Follows context tasks later) :
      Follows context (.visit target.1 :: tasks) (target :: later)

variable {context : Context} {target : Target} {rest : List Task} {registry : Registry}

theorem run_visit_absent {position : Nat} (absent : typeAt? context.document position = none) :
    context.run (.visit position :: rest) registry = context.run rest registry := by
  rw [run]
  split
  · rfl
  · next found => simp [absent] at found

/-- Visiting a type looks its class up and nothing else. -/
theorem run_visit (target : Target) (stored : typeAt? context.document target.1 = some target.2)
    (rest : List Task) (registry : Registry) :
    context.run (.visit target.1 :: rest) registry =
      match registry.lookup target.className with
      | some registered =>
        if registered = target.typeName then
          (context.run rest registry).reporting (.alreadyGenerated target.className)
        else { registry, clash := some (context.clashOf target registered) }
      | none =>
        context.run (context.typeTasks target.className target.1 target.2 ++ rest)
          (registry ++ [target.entry]) := by
  rw [run]
  split
  · next absent => simp [absent] at stored
  · next definition found =>
    obtain rfl : definition = target.2 := Option.some.inj (found.symm.trans stored)
    split <;> rename_i looked <;> simp only [Target.className, Target.typeName, Target.name, looked]
    · rfl
    · rfl

/-- Working off two agendas in a row is going on with the second where the first ended. -/
theorem run_append (first second : List Task) (registry : Registry) :
    context.run (first ++ second) registry
      = (context.run first registry).andThen (context.run second) := by
  induction first, registry using run.induct context with
  | case1 registry => simp [run]
  | case2 registry event rest ih => simp [run, ih]
  | case3 registry projection rest ih => simp [run, ih]
  | case4 position rest registry absent ih =>
    rw [List.cons_append, run_visit_absent absent, run_visit_absent absent, ih]
  | case5 position rest registry definition stored known ih =>
    have visited (tasks : List Task) := run_visit (position, definition) stored tasks registry
    simp only [Target.className, Target.typeName, Target.name, known] at visited
    simp [visited, ih]
  | case6 position rest registry definition stored other taken differs =>
    have visited (tasks : List Task) := run_visit (position, definition) stored tasks registry
    simp only [Target.className, Target.typeName, Target.name, taken, differs] at visited
    simp [visited]
  | case7 position rest registry definition stored fresh ih =>
    have visited (tasks : List Task) := run_visit (position, definition) stored tasks registry
    simp only [Target.className, Target.typeName, Target.name, fresh] at visited
    rw [List.cons_append, visited, visited, ← List.append_assoc]
    exact ih

theorem Follows.append {front back : List Task} {first second : List Target}
    (before : context.Follows front first) (behind : context.Follows back second) :
    context.Follows (front ++ back) (first ++ second) := by
  induction before with
  | nil => exact behind
  | report _ ih => exact .report ih
  | visit stored _ ih => exact .visit stored ih

private theorem follows_repeatReports (position : Nat) (definition : TypeDefinition) :
    context.Follows (context.repeatReports position definition) [] := by
  unfold repeatReports
  induction repeatedFields context.document position definition with
  | nil => exact .nil
  | cons field rest ih => exact .report ih

private theorem follows_fields {fields : List ResolvedField} {follow : ResolvedField → List Task}
    (each : ∀ resolved ∈ fields, context.Follows (follow resolved) resolved.target?.toList) :
    context.Follows (fields.flatMap follow) (fields.filterMap ResolvedField.target?) := by
  induction fields with
  | nil => exact .nil
  | cons resolved rest ih =>
    have tail := ih fun field member => each field (List.mem_cons_of_mem _ member)
    have head := (each resolved List.mem_cons_self).append tail
    cases leads : resolved.target? <;> simpa [leads] using head

private theorem follows_target {resolved : ResolvedField} (resolves : context.Resolves target)
    (leads : resolved.target? = some target) :
    context.Follows [.visit target.1] resolved.target?.toList := by
  rw [leads]
  exact .visit resolves.typeAt .nil

/-- A type's agenda up to giving out its own projection. -/
def fieldAgenda (context : Context) (target : Target) : List Task :=
  context.repeatReports target.1 target.2
    ++ (context.resolvedFields false target.1 target.2).flatMap (fieldTasks target.name)

theorem follows_fieldAgenda (target : Target) :
    context.Follows (context.fieldAgenda target) (context.targets target) := by
  refine (follows_repeatReports target.1 target.2).append (follows_fields ?_)
  intro resolved member
  cases leads : resolved.target? with
  | some next =>
    simpa [fieldTasks, leads] using follows_target (resolves_of_target member leads) leads
  | none =>
    cases found : resolved.resolution with
    | none => simpa [fieldTasks, leads, found] using Follows.report .nil
    | some resolution => simpa [fieldTasks, leads, found] using Follows.nil

theorem follows_rootTasks (position : Nat) (definition : TypeDefinition) :
    context.Follows (context.rootTasks position definition)
      (context.rootTargets position definition) := by
  refine (follows_repeatReports position definition).append (follows_fields ?_)
  intro resolved member
  cases leads : resolved.target? with
  | some next =>
    simpa [rootFieldTasks, leads] using follows_target (resolves_of_target member leads) leads
  | none => simpa [rootFieldTasks, leads] using Follows.report .nil

/-- A descent only adds to the registry. -/
theorem Descent.grows {targets given : List Target} {final : Registry} {ending : Option Clash}
    (descent : context.Descent targets registry given final ending) :
    ∃ added, final = registry ++ added := by
  induction descent with
  | done | refused => exact ⟨[], (List.append_nil _).symm⟩
  | met _ _ ih => exact ih
  | broken _ _ ih =>
    obtain ⟨added, rfl⟩ := ih
    exact ⟨_, List.append_assoc ..⟩
  | finished _ _ _ ihInside ihRest =>
    obtain ⟨inside, rfl⟩ := ihInside
    obtain ⟨behind, rfl⟩ := ihRest
    exact ⟨_, by rw [List.append_assoc, List.append_assoc]⟩

/-- Types that are all met already have nothing given out. -/
theorem Descent.of_known {targets : List Target}
    (known : ∀ target ∈ targets, registry.lookup target.className = some target.typeName) :
    context.Descent targets registry [] registry none := by
  induction targets with
  | nil => exact .done
  | cons target later ih =>
    obtain ⟨met, others⟩ := List.forall_mem_cons.mp known
    exact .met met (ih others)

/-- A type that leads to nothing but types met already is given out by itself. -/
theorem Descent.alone {later after : List Target} {final : Registry} {ending : Option Clash}
    (fresh : registry.lookup target.className = none)
    (known : ∀ inner ∈ context.targets target,
      (registry ++ [target.entry]).lookup inner.className = some inner.typeName)
    (rest : context.Descent later (registry ++ [target.entry]) after final ending) :
    context.Descent (target :: later) registry (target :: after) final ending :=
  .finished fresh (.of_known known) rest

private theorem unregistered_append_le (document : Document) (registry added : Registry) :
    unregistered document (registry ++ added) ≤ unregistered document registry := by
  refine List.countP_mono_left fun name _ absent => ?_
  simp only [List.lookup_append, Option.isNone_iff_eq_none, Option.or_eq_none_iff] at absent
  simp [absent.1]

/-- Giving out the projection of a type comes last among what the type takes. -/
theorem run_typeTasks (context : Context) (name : String) (target : Target) (registry : Registry) :
    context.run (context.typeTasks name target.1 target.2) registry
      = (context.run (context.fieldAgenda target) registry).andThen fun final =>
          { projections := [context.projectionOf name target.1 target.2], registry := final } := by
  have split : context.typeTasks name target.1 target.2
      = context.fieldAgenda target ++ [.finish (context.projectionOf name target.1 target.2)] := rfl
  rw [split, run_append]
  congr 1
  funext final
  simp [run, Outcome.giving]

/-- An agenda that follows types is a descent along them. The outer induction is on the number of classes
still to be registered, the inner one on what is left of the agenda. -/
private theorem descent_of_bound (bound : Nat) {tasks : List Task} {later : List Target}
    (follows : context.Follows tasks later) (registry : Registry)
    (within : unregistered context.document registry ≤ bound) :
    ∃ given, context.Descent later registry given (context.run tasks registry).registry
        (context.run tasks registry).clash ∧
      (context.run tasks registry).projections = given.map context.projection := by
  induction bound using Nat.strongRecOn generalizing tasks later registry with
  | ind bound shallower =>
    induction follows generalizing registry with
    | nil => exact ⟨[], by simpa [run] using .done, by simp [run]⟩
    | report _ ih =>
      obtain ⟨given, descent, projected⟩ := ih registry within
      exact ⟨given, by simpa [run, Outcome.reporting] using descent,
        by simpa [run, Outcome.reporting] using projected⟩
    | @visit target rest later stored _ ih =>
      cases looked : registry.lookup target.className with
      | some registered =>
        by_cases same : registered = target.typeName
        · subst same
          obtain ⟨given, descent, projected⟩ := ih registry within
          refine ⟨given, ?_, ?_⟩ <;> simp only [run_visit target stored, looked, if_pos, Outcome.reporting]
          · exact .met looked descent
          · exact projected
        · refine ⟨[], ?_, ?_⟩ <;> simp only [run_visit target stored, looked, if_neg same]
          · exact .refused looked same
          · rfl
      | none =>
        have fewer : unregistered context.document (registry ++ [target.entry])
            < unregistered context.document registry :=
          unregistered_append_lt (mem_definedClasses stored) looked
        obtain ⟨below, inside, insideProjected⟩ := shallower _ (Nat.lt_of_lt_of_le fewer within)
          (follows_fieldAgenda target) (registry ++ [target.entry]) (Nat.le_refl _)
        simp only [run_visit target stored, looked, run_append, run_typeTasks]
        generalize context.run (context.fieldAgenda target) (registry ++ [target.entry]) = outcome
          at inside insideProjected
        obtain ⟨projections, middle, journal, ending⟩ := outcome
        cases ending with
        | some clash => exact ⟨below, .broken looked inside, insideProjected⟩
        | none =>
          have shrunk : unregistered context.document middle ≤ bound := by
            obtain ⟨added, rfl⟩ := inside.grows
            exact Nat.le_trans (unregistered_append_le _ _ added) (Nat.le_trans (Nat.le_of_lt fewer) within)
          obtain ⟨after, behind, behindProjected⟩ := ih middle shrunk
          refine ⟨below ++ target :: after, .finished looked inside behind, ?_⟩
          simp only [Outcome.andThen] at insideProjected ⊢
          simp [insideProjected, behindProjected, projection]

/-- The walk along the types an agenda follows is a descent, whatever the registry holds before. -/
theorem run_descends {tasks : List Task} {later : List Target} (follows : context.Follows tasks later)
    (registry : Registry) :
    ∃ given, context.Descent later registry given (context.run tasks registry).registry
        (context.run tasks registry).clash ∧
      (context.run tasks registry).projections = given.map context.projection :=
  descent_of_bound _ follows registry (Nat.le_refl _)

/-- There is one way only for a descent to go. -/
theorem Descent.unique {targets given given' : List Target} {final final' : Registry}
    {ending ending' : Option Clash} (first : context.Descent targets registry given final ending)
    (second : context.Descent targets registry given' final' ending') :
    given = given' ∧ final = final' ∧ ending = ending' := by
  induction first generalizing given' final' ending' with
  | done =>
    cases second
    exact ⟨rfl, rfl, rfl⟩
  | met known _ ih =>
    cases second with
    | met _ rest => exact ih rest
    | refused taken differs => exact absurd (Option.some.inj (taken.symm.trans known)) differs
    | broken fresh | finished fresh => simp [fresh] at known
  | refused taken differs =>
    cases second with
    | met known => exact absurd (Option.some.inj (taken.symm.trans known)) differs
    | refused other =>
      cases taken.symm.trans other
      exact ⟨rfl, rfl, rfl⟩
    | broken fresh | finished fresh => simp [fresh] at taken
  | broken fresh _ ih =>
    cases second with
    | met known => simp [known] at fresh
    | refused taken => simp [taken] at fresh
    | broken _ inside => exact ih inside
    | finished _ inside => cases (ih inside).2.2
  | finished fresh _ _ ihInside ihRest =>
    cases second with
    | met known => simp [known] at fresh
    | refused taken => simp [taken] at fresh
    | broken _ inside => cases (ihInside inside).2.2
    | finished _ inside rest =>
      obtain ⟨rfl, rfl, -⟩ := ihInside inside
      obtain ⟨rfl, rfl, rfl⟩ := ihRest rest
      exact ⟨rfl, rfl, rfl⟩

/-- Building a type whose class is not registered yet is registering it and following its fields. Its own
projection is given out behind them, unless a clash broke that off. -/
theorem buildAs_descends {baseName : String} (position : Nat) (definition : TypeDefinition)
    (fresh : registry.lookup (className baseName) = none) :
    ∃ given,
      context.Descent (context.targets (position, definition))
          (registry ++ [(className baseName, definition.name.text)]) given
          (context.buildAs baseName position definition registry).registry
          (context.buildAs baseName position definition registry).clash ∧
        ((context.buildAs baseName position definition registry).clash = none →
          (context.buildAs baseName position definition registry).projections
            = given.map context.projection
              ++ [context.projectionOf (className baseName) position definition]) := by
  have tasks := context.run_typeTasks (className baseName) (position, definition)
    (registry ++ [(className baseName, definition.name.text)])
  obtain ⟨given, descent, projected⟩ := run_descends
    (context.follows_fieldAgenda (position, definition))
    (registry ++ [(className baseName, definition.name.text)])
  simp only [buildAs, fresh, tasks]
  generalize context.run (context.fieldAgenda (position, definition)) _ = below at descent projected
  obtain ⟨projections, final, journal, ending⟩ := below
  refine ⟨given, ?_⟩
  cases ending with
  | some clash => exact ⟨descent, by simp [Outcome.andThen]⟩
  | none => exact ⟨descent, fun _ => by simpa [Outcome.andThen] using projected⟩

/-! What a successful build amounts to, for each way to build. -/

/-- Building a type gives nothing when its class is registered for it, and otherwise everything below the
type with the type's own projection behind. -/
theorem buildType_ok {baseName : String} {position : Nat} {definition : TypeDefinition} {api : Api}
    {outcome : Outcome}
    (built : context.buildType baseName position definition registry = (.ok api, outcome)) :
    (registry.lookup (className baseName) = some definition.name.text ∧ api = {} ∧
        outcome.registry = registry) ∨
      (registry.lookup (className baseName) = none ∧ ∃ given,
        context.Descent (context.targets (position, definition))
            (registry ++ [(className baseName, definition.name.text)]) given outcome.registry none ∧
          api = { clientProjections := given.map context.projection
                    ++ [context.projectionOf (className baseName) position definition] }) := by
  rw [buildType, Prod.mk.injEq] at built
  obtain ⟨result, rfl⟩ := built
  cases looked : registry.lookup (className baseName) with
  | some registered =>
    left
    by_cases same : registered = definition.name.text
    · simp_all [buildAs, Outcome.result]
    · simp [buildAs, looked, same, Outcome.result] at result
  | none =>
    right
    obtain ⟨given, descent, projected⟩ := context.buildAs_descends position definition looked
    generalize context.buildAs baseName position definition registry = below at result descent projected
    cases ending : below.clash with
    | some clash => simp [Outcome.result, ending] at result
    | none =>
      rw [ending] at descent projected
      simp only [Outcome.result, ending, Except.ok.injEq] at result
      exact ⟨rfl, given, descent, by rw [← result, projected rfl]⟩

/-- Building a root gives its entry point and everything that its fields lead to. -/
theorem buildRoot_ok {position : Nat} {definition : TypeDefinition} {api : Api} {outcome : Outcome}
    (built : context.buildRoot position definition registry = (.ok api, outcome)) :
    ∃ given,
      context.Descent (context.rootTargets position definition) registry given outcome.registry none ∧
        api = { queryTypes := [context.rootProjectionOf position definition]
                clientProjections := given.map context.projection } := by
  obtain ⟨given, descent, projected⟩ := run_descends (context.follows_rootTasks position definition)
    registry
  simp only [buildRoot, buildBelowRoot, Prod.mk.injEq] at built
  obtain ⟨result, rfl⟩ := built
  cases ending : (context.run (context.rootTasks position definition) registry).clash with
  | some clash => simp [Outcome.result, ending] at result
  | none =>
    simp only [Outcome.result, ending, Except.ok.injEq] at result
    rw [ending] at descent
    exact ⟨given, descent, by rw [← result, projected]⟩

/-- What a root leads to is followed from an empty registry, and a run has a result unless a clash breaks
that off. -/
theorem generate_cases (context : Context) (position : Nat) (definition : TypeDefinition) :
    ∃ given final ending,
      context.Descent (context.rootTargets position definition) [] given final ending ∧
        (context.generate position definition).1 =
          match ending with
          | some clash => .error clash
          | none => .ok { queryTypes := [context.rootProjectionOf position definition]
                          clientProjections := given.map context.projection } := by
  obtain ⟨given, descent, projected⟩ := run_descends (context.follows_rootTasks position definition) []
  refine ⟨given, _, _, descent, ?_⟩
  simp only [generate, buildRoot, buildBelowRoot, Outcome.result]
  cases (context.run (context.rootTasks position definition) []).clash with
  | some clash => rfl
  | none => simp [projected]

theorem generate_ok {position : Nat} {definition : TypeDefinition} {api : Api}
    (done : (context.generate position definition).1 = .ok api) :
    ∃ given final,
      context.Descent (context.rootTargets position definition) [] given final none ∧
        api = { queryTypes := [context.rootProjectionOf position definition]
                clientProjections := given.map context.projection } := by
  obtain ⟨given, final, ending, descent, result⟩ := generate_cases context position definition
  rw [done] at result
  cases ending with
  | some clash => cases result
  | none => exact ⟨given, final, descent, Except.ok.inj result⟩

theorem generate_error {position : Nat} {definition : TypeDefinition} {clash : Clash}
    (broken : (context.generate position definition).1 = .error clash) :
    ∃ given final,
      context.Descent (context.rootTargets position definition) [] given final (some clash) := by
  obtain ⟨given, final, ending, descent, result⟩ := generate_cases context position definition
  rw [broken] at result
  cases ending with
  | none => cases result
  | some found =>
    cases result
    exact ⟨given, final, descent⟩

/-- A descent tells what building the root gives. -/
theorem buildRoot_of_descent {position : Nat} {definition : TypeDefinition} {given : List Target}
    {final : Registry}
    (descent : context.Descent (context.rootTargets position definition) registry given final none) :
    ∃ outcome, context.buildRoot position definition registry
        = (.ok { queryTypes := [context.rootProjectionOf position definition]
                 clientProjections := given.map context.projection }, outcome) ∧
      outcome.registry = final := by
  obtain ⟨given', descent', projected⟩ := run_descends (context.follows_rootTasks position definition)
    registry
  obtain ⟨rfl, rfl, ending⟩ := descent.unique descent'
  refine ⟨_, Prod.ext ?_ rfl, rfl⟩
  simp only [buildRoot, buildBelowRoot, Outcome.result, ← ending, projected]

theorem generate_of_descent {position : Nat} {definition : TypeDefinition} {given : List Target}
    {final : Registry}
    (descent : context.Descent (context.rootTargets position definition) [] given final none) :
    (context.generate position definition).1
      = .ok { queryTypes := [context.rootProjectionOf position definition]
              clientProjections := given.map context.projection } := by
  obtain ⟨outcome, built, _⟩ := buildRoot_of_descent descent
  simp [generate, built]

end Context

/-! A schema to look at: books and their authors lead to one another, and nothing leads to publishers but a
field that is left out. -/
namespace Library

def bookName : Name := ⟨"Book", by decide +kernel⟩

def authorName : Name := ⟨"Author", by decide +kernel⟩

def publisherName : Name := ⟨"Publisher", by decide +kernel⟩

def query : TypeDefinition where
  kind := .object
  name := customaryQuery
  fields := [{ name := ⟨"books", by decide +kernel⟩, type := ⟨[.nonNull, .list, .nonNull], bookName⟩ }]

def book : Target where
  fst := 1
  snd.kind := .object
  snd.name := bookName
  snd.fields :=
    [{ name := ⟨"title", by decide +kernel⟩, type := ⟨[.nonNull], ⟨"String", by decide +kernel⟩⟩ },
     { name := ⟨"author", by decide +kernel⟩, type := ⟨[], authorName⟩ }]

def author : Target where
  fst := 2
  snd.kind := .interface
  snd.name := authorName
  snd.fields :=
    [{ name := ⟨"books", by decide +kernel⟩, type := ⟨[.list], bookName⟩,
       arguments := [⟨"first", by decide +kernel⟩] },
     { name := ⟨"publisher", by decide +kernel⟩, type := ⟨[], publisherName⟩,
       directives := [⟨"skipcodegen", by decide +kernel⟩] }]

def schema : Document :=
  [.type query, .type book.2, .type author.2, .type { kind := .object, name := publisherName }]

def context : Context := ⟨{}, schema⟩

/-- The books' class is registered before the authors are followed, and given out behind theirs. -/
theorem descent : context.Descent (context.rootTargets 0 query) [] [author, book]
    [book.entry, author.entry] none := by
  have ofQuery : context.rootTargets 0 query = [book] := by decide
  have ofBook : context.targets book = [author] := by decide
  have freshBook : List.lookup book.className [] = (none : Option String) := rfl
  have freshAuthor : List.lookup author.className [book.entry] = none := by decide
  have belowBook : context.Descent (context.targets book) [book.entry] [author]
      [book.entry, author.entry] none := by
    rw [ofBook]
    exact .alone freshAuthor (by decide) .done
  rw [ofQuery]
  exact .finished freshBook belowBook .done

theorem generated : (context.generate 0 query).1
    = .ok { queryTypes := [context.rootProjectionOf 0 query]
            clientProjections := [context.projection author, context.projection book] } :=
  Context.generate_of_descent descent

end Library

end SelectionGen.Projection
