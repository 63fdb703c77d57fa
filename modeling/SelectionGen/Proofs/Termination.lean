import Mathlib.Data.List.Dedup
import Mathlib.Data.List.Perm.Subperm
import SelectionGen.Proofs.Registration

/-! Every walk ends. A walk goes on task by task; a task either registers a class of the document for good or
leaves less to do, so no schema keeps a walk going, whichever way its types lead to one another. On the
way every class that the walk has registered belongs to a projection that was given out or to a type
whose fields are still being followed. So neither the projections nor the nesting outgrow the types
that a document has fields for. -/
namespace SelectionGen.Projection

open Sdl Schema

/-- A walk under way: what is left to do, and how it went so far. -/
structure Stage where
  agenda : List Task
  sofar : Outcome

def Task.isFinish : Task → Bool
  | .finish _ => true
  | _ => false

/-- How many types are being followed at once, each for a field of the one before. -/
def Stage.depth (stage : Stage) : Nat := stage.agenda.countP Task.isFinish

/-- Once a clash broke the walk off nothing is left to do. -/
def Stage.Settled (stage : Stage) : Prop := stage.sofar.clash = none ∨ stage.agenda = []

/-- A build was answered by a result of so many projections at most, or by the clash that its walk ended
with. -/
def Answered (bound : Nat) (built : Except Clash Api × Outcome) : Prop :=
  (∃ api, built.1 = .ok api ∧ built.2.clash = none ∧
      api.queryTypes.length + api.clientProjections.length ≤ bound) ∨
    ∃ clash, built.1 = .error clash ∧ built.2.clash = some clash

/-- The types of a document that fields can be selected on, each name once. -/
def selectableTypes (document : Document) : List String :=
  (((document.filterMap Definition.type?).filter fun found =>
    found.isProjectable && !found.isExtension).map fun found => found.name.text).dedup

namespace Context

/-- One task of a walk. After a clash nothing else is done. -/
inductive Step (context : Context) : Stage → Stage → Prop
  | report {event rest given registry journal} :
      Step context ⟨.report event :: rest, given, registry, journal, none⟩
        ⟨rest, given, registry, journal ++ [event], none⟩
  | give {projection rest given registry journal} :
      Step context ⟨.finish projection :: rest, given, registry, journal, none⟩
        ⟨rest, given ++ [projection], registry, journal, none⟩
  | skip {position rest given registry journal} (absent : typeAt? context.document position = none) :
      Step context ⟨.visit position :: rest, given, registry, journal, none⟩
        ⟨rest, given, registry, journal, none⟩
  | meet {target : Target} {rest given journal} {registry : Registry}
      (stored : typeAt? context.document target.1 = some target.2)
      (known : registry.lookup target.className = some target.typeName) :
      Step context ⟨.visit target.1 :: rest, given, registry, journal, none⟩
        ⟨rest, given, registry, journal ++ [.alreadyGenerated target.className], none⟩
  | refuse {target : Target} {rest given journal registered} {registry : Registry}
      (stored : typeAt? context.document target.1 = some target.2)
      (taken : registry.lookup target.className = some registered)
      (differs : registered ≠ target.typeName) :
      Step context ⟨.visit target.1 :: rest, given, registry, journal, none⟩
        ⟨[], given, registry, journal, some (context.clashOf target registered)⟩
  | enter {target : Target} {rest given journal} {registry : Registry}
      (stored : typeAt? context.document target.1 = some target.2)
      (fresh : registry.lookup target.className = none) :
      Step context ⟨.visit target.1 :: rest, given, registry, journal, none⟩
        ⟨context.typeTasks target.className target.1 target.2 ++ rest, given,
          registry ++ [target.entry], journal, none⟩

/-- The stages that a walk comes to. -/
abbrev Walks (context : Context) : Stage → Stage → Prop := Relation.ReflTransGen context.Step

variable {context : Context} {first stage next : Stage}

/-- What a stage comes to when its agenda is worked off. -/
def completed (context : Context) (stage : Stage) : Outcome :=
  stage.sofar.andThen (context.run stage.agenda)

/-- Nothing is done where nothing is left to do. -/
@[simp] theorem andThen_run_nil (outcome : Outcome) : outcome.andThen (context.run []) = outcome := by
  obtain ⟨given, registry, journal, ending⟩ := outcome
  cases ending <;> simp [Outcome.andThen, run]

/-- Steps are those of the walk: doing one task does not change what the walk comes to. -/
theorem completed_of_step (step : context.Step stage next) :
    context.completed stage = context.completed next := by
  cases step with
  | report | give => simp [completed, Outcome.andThen, run, Outcome.reporting, Outcome.giving]
  | skip absent => simp [completed, Outcome.andThen, run_visit_absent absent]
  | meet stored known =>
    simp [completed, Outcome.andThen, run_visit _ stored, known, Outcome.reporting]
  | refuse stored taken differs =>
    simp [completed, Outcome.andThen, run_visit _ stored, taken, differs]
  | enter stored fresh => simp [completed, Outcome.andThen, run_visit _ stored, fresh]

/-- As long as there is something left to do, a walk goes on. -/
theorem step_of_pending (pending : stage.agenda ≠ []) (unbroken : stage.sofar.clash = none) :
    ∃ next, context.Step stage next := by
  obtain ⟨agenda, given, registry, journal, ending⟩ := stage
  cases unbroken
  cases agenda with
  | nil => exact absurd rfl pending
  | cons task rest =>
    cases task with
    | report event => exact ⟨_, .report⟩
    | finish projection => exact ⟨_, .give⟩
    | visit position =>
      cases stored : typeAt? context.document position with
      | none => exact ⟨_, .skip stored⟩
      | some definition =>
        obtain ⟨target, rfl, rfl⟩ : ∃ target : Target, target.1 = position ∧ target.2 = definition :=
          ⟨(position, definition), rfl, rfl⟩
        cases looked : registry.lookup target.className with
        | none => exact ⟨_, .enter stored looked⟩
        | some registered =>
          by_cases same : registered = target.typeName
          · exact ⟨_, .meet stored (same ▸ looked)⟩
          · exact ⟨_, .refuse stored looked same⟩

/-- No walk goes on for ever. Between two classes that are registered the agenda gets shorter. -/
theorem step_wellFounded (context : Context) :
    WellFounded fun next stage => context.Step stage next := by
  let size (stage : Stage) : Nat × Nat :=
    (unregistered context.document stage.sofar.registry, stage.agenda.length)
  have ordered : WellFounded (InvImage (Prod.Lex Nat.lt Nat.lt) size) :=
    InvImage.wf size (Prod.lex Nat.lt_wfRel Nat.lt_wfRel).wf
  refine Subrelation.wf (fun {next stage} step => ?_) ordered
  cases step with
  | report | give | skip | meet | refuse => exact .right _ (by simp)
  | enter stored fresh =>
    exact .left _ _ (unregistered_append_lt (mem_definedClasses stored) fresh)

theorem settled_of_step (step : context.Step stage next) : next.Settled := by
  cases step with
  | report | give | skip | meet | enter => exact .inl rfl
  | refuse => exact .inr rfl

/-- A walk comes to a stage where nothing is left to do, and things stand there as working the agenda off
says. -/
theorem walks_to_end (stage : Stage) (settled : stage.Settled) :
    ∃ last, context.Walks stage last ∧ last.agenda = [] ∧ last.sofar = context.completed stage := by
  induction stage using context.step_wellFounded.induction with
  | h stage further =>
    by_cases empty : stage.agenda = []
    · exact ⟨stage, .refl, empty, by simp [completed, empty]⟩
    · obtain ⟨next, step⟩ := step_of_pending empty (settled.resolve_right empty)
      obtain ⟨last, walk, done, same⟩ := further next step (settled_of_step step)
      exact ⟨last, .head step walk, done, same.trans (completed_of_step step).symm⟩

theorem Follows.depth_eq_zero {tasks : List Task} {later : List Target}
    (follows : context.Follows tasks later) : tasks.countP Task.isFinish = 0 := by
  induction follows with
  | nil => rfl
  | report _ ih | visit _ _ ih => simpa [Task.isFinish] using ih

theorem Follows.target_of_visit {tasks : List Task} {later : List Target} {position : Nat}
    (follows : context.Follows tasks later) (member : .visit position ∈ tasks) :
    ∃ target ∈ later, target.1 = position := by
  induction follows with
  | nil => simp at member
  | report _ ih =>
    obtain ⟨target, found, same⟩ := ih (by simpa using member)
    exact ⟨target, found, same⟩
  | @visit current _ _ _ _ ih =>
    rcases List.mem_cons.mp member with here | behind
    · cases here
      exact ⟨current, List.mem_cons_self, rfl⟩
    · obtain ⟨target, found, same⟩ := ih behind
      exact ⟨target, List.mem_cons_of_mem _ found, same⟩

/-- Following a type opens one type, its own, and visits nothing but what its fields lead to. -/
theorem countP_typeTasks (name : String) (target : Target) :
    (context.typeTasks name target.1 target.2).countP Task.isFinish = 1 := by
  have split : context.typeTasks name target.1 target.2
      = context.fieldAgenda target ++ [.finish (context.projectionOf name target.1 target.2)] := rfl
  simp [split, (context.follows_fieldAgenda target).depth_eq_zero, Task.isFinish]

theorem resolves_of_visit_typeTasks {name : String} {position : Nat} (target : Target)
    (member : .visit position ∈ context.typeTasks name target.1 target.2) :
    ∃ definition, context.Resolves (position, definition) := by
  have split : context.typeTasks name target.1 target.2
      = context.fieldAgenda target ++ [.finish (context.projectionOf name target.1 target.2)] := rfl
  have inFields : .visit position ∈ context.fieldAgenda target := by simpa [split] using member
  obtain ⟨next, leads, rfl⟩ := (context.follows_fieldAgenda target).target_of_visit inFields
  exact ⟨next.2, resolves_of_mem_targets leads⟩

theorem resolves_of_visit_rootTasks {position rootPosition : Nat} {definition : TypeDefinition}
    (member : .visit position ∈ context.rootTasks rootPosition definition) :
    ∃ found, context.Resolves (position, found) := by
  obtain ⟨next, leads, rfl⟩ := (context.follows_rootTasks rootPosition definition).target_of_visit member
  exact ⟨next.2, resolves_of_mem_rootTargets leads⟩

/-- What a walk keeps to. It visits nothing but what references lead to, and of the classes registered since
it began, each belongs to a projection that was given out or is waiting for its fields. -/
structure Accounted (context : Context) (before : Registry) (opened : Nat) (stage : Stage) : Prop where
  visits : ∀ position, .visit position ∈ stage.agenda →
    ∃ definition, context.Resolves (position, definition)
  registers : ∃ added : List Target,
    stage.sofar.registry = before ++ added.map Target.entry ∧
      Fresh before (added.map Target.entry) ∧ (∀ target ∈ added, context.Resolves target) ∧
      stage.sofar.projections.length + stage.depth ≤ opened + added.length

variable {before : Registry} {opened : Nat}

theorem accounted_of_step (step : context.Step stage next)
    (accounted : context.Accounted before opened stage) :
    context.Accounted before opened next := by
  obtain ⟨visits, added, registered, fresh, resolving, bounded⟩ := accounted
  cases step with
  | report | skip | meet =>
    refine ⟨fun position member => visits position (List.mem_cons_of_mem _ member), added, registered,
      fresh, resolving, ?_⟩
    simpa [Stage.depth, Task.isFinish] using bounded
  | give =>
    refine ⟨fun position member => visits position (List.mem_cons_of_mem _ member), added, registered,
      fresh, resolving, ?_⟩
    simp only [Stage.depth, List.countP_cons, Task.isFinish, if_true, List.length_append,
      List.length_singleton] at bounded ⊢
    omega
  | refuse =>
    refine ⟨by simp, added, registered, fresh, resolving, ?_⟩
    simp [Stage.depth, Task.isFinish] at bounded ⊢
    omega
  | @enter target _ _ _ _ stored new =>
    have resolves : context.Resolves target := by
      obtain ⟨definition, found⟩ := visits target.1 List.mem_cons_self
      obtain rfl : definition = target.2 := Option.some.inj (found.typeAt.symm.trans stored)
      exact found
    dsimp only at registered
    subst registered
    refine ⟨fun position member => ?_, added ++ [target], by simp, ?_, ?_, ?_⟩
    · rcases List.mem_append.mp member with below | later
      · exact resolves_of_visit_typeTasks target below
      · exact visits position (List.mem_cons_of_mem _ later)
    · rw [List.map_append]
      exact fresh.append (.single target.entry new)
    · intro other member
      rcases List.mem_append.mp member with old | own
      · exact resolving other old
      · rwa [List.mem_singleton.mp own]
    · simp [Stage.depth, Task.isFinish, countP_typeTasks] at bounded ⊢
      omega

theorem accounted_of_walks (walk : context.Walks first stage)
    (accounted : context.Accounted before opened first) :
    context.Accounted before opened stage := by
  induction walk with
  | refl => exact accounted
  | tail _ step ih => exact accounted_of_step step ih

/-- References lead to types that the document has fields for. -/
theorem mem_selectableTypes {target : Target} (resolves : context.Resolves target) :
    target.typeName ∈ selectableTypes context.document := by
  have stored := (findType_eq_some_iff.mp resolves.1).member
  refine List.mem_dedup.mpr (List.mem_map.mpr ⟨target.2, List.mem_filter.mpr ⟨?_, ?_⟩, rfl⟩)
  · exact List.mem_filterMap.mpr ⟨_, stored, rfl⟩
  · simp [resolves.2, resolves.isDefinition]

/-- Types of distinct classes have distinct names, so a document has no more of them than names. -/
theorem length_le_selectableTypes {added : List Target} (fresh : Fresh before (added.map Target.entry))
    (resolving : ∀ target ∈ added, context.Resolves target) :
    added.length ≤ (selectableTypes context.document).length := by
  have classes : ((added.map Target.typeName).map className).Nodup := by
    have keys := fresh.distinct
    rw [List.map_map] at keys ⊢
    exact keys
  have names : (added.map Target.typeName).Nodup := List.Nodup.of_map className classes
  have known : added.map Target.typeName ⊆ selectableTypes context.document := by
    intro name member
    obtain ⟨target, inAdded, rfl⟩ := List.mem_map.mp member
    exact mem_selectableTypes (resolving target inAdded)
  simpa using (names.subperm known).length_le

/-- The walk from a stage is finite and ends with nothing left to do, where the outcome stands; and on the
way it neither nests deeper nor gives out more than a bound allows. -/
structure EndsWithin (context : Context) (bound : Nat) (first : Stage) (outcome : Outcome) : Prop where
  finite : Acc (fun next stage => context.Step stage next) first
  ends : ∃ last, context.Walks first last ∧ last.agenda = [] ∧ last.sofar = outcome
  bounded : ∀ stage, context.Walks first stage →
    stage.depth ≤ bound ∧ stage.sofar.projections.length ≤ bound

theorem endsWithin_of_accounted (settled : first.Settled)
    (accounted : context.Accounted before opened first) :
    context.EndsWithin ((selectableTypes context.document).length + opened) first
      (context.completed first) where
  finite := context.step_wellFounded.apply first
  ends := walks_to_end first settled
  bounded := by
    intro stage walk
    obtain ⟨_, added, _, fresh, resolving, within⟩ := accounted_of_walks walk accounted
    have few := length_le_selectableTypes fresh resolving
    omega

/-- Where building a type begins. A class that is registered already is answered at once. -/
def typeStage (context : Context) (baseName : String) (position : Nat) (definition : TypeDefinition)
    (registry : Registry) : Stage :=
  match registry.lookup (className baseName) with
  | some _ => { agenda := [], sofar := context.buildAs baseName position definition registry }
  | none =>
    { agenda := context.typeTasks (className baseName) position definition
      sofar := { registry := registry ++ [(className baseName, definition.name.text)] } }

/-- Where building a root begins. -/
def rootStage (context : Context) (position : Nat) (definition : TypeDefinition) (registry : Registry) :
    Stage :=
  { agenda := context.rootTasks position definition, sofar := { registry } }

theorem completed_typeStage (baseName : String) (position : Nat) (definition : TypeDefinition)
    (registry : Registry) :
    context.completed (context.typeStage baseName position definition registry)
      = context.buildAs baseName position definition registry := by
  cases looked : registry.lookup (className baseName) with
  | some registered => simp [typeStage, completed, looked]
  | none => simp [typeStage, completed, looked, buildAs]

/-- Building a type ends, and opens at most one type besides those that the document has fields for. -/
theorem typeStage_endsWithin (baseName : String) (position : Nat) (definition : TypeDefinition)
    (registry : Registry) :
    context.EndsWithin ((selectableTypes context.document).length + 1)
      (context.typeStage baseName position definition registry)
      (context.buildAs baseName position definition registry) := by
  rw [← completed_typeStage]
  cases looked : registry.lookup (className baseName) with
  | some registered =>
    have accounted : context.Accounted registry 1
        (context.typeStage baseName position definition registry) := by
      refine ⟨by simp [typeStage, looked], [], ?_⟩
      by_cases same : registered = definition.name.text <;>
        simp [typeStage, looked, buildAs, same, Fresh.nil, Stage.depth]
    exact endsWithin_of_accounted (.inr (by simp [typeStage, looked])) accounted
  | none =>
    -- The class asked for need not be that of the type, so it is no class that the walk accounts for.
    have accounted : context.Accounted (registry ++ [(className baseName, definition.name.text)]) 1
        (context.typeStage baseName position definition registry) := by
      refine ⟨fun place member => ?_, [], ?_⟩
      · simp only [typeStage, looked] at member
        exact resolves_of_visit_typeTasks (position, definition) member
      · have opens := context.countP_typeTasks (className baseName) (position, definition)
        simp [typeStage, looked, Fresh.nil, Stage.depth, opens]
    exact endsWithin_of_accounted (.inl (by simp [typeStage, looked])) accounted

/-- Building a root ends, and opens no type but those that the document has fields for. -/
theorem rootStage_endsWithin (position : Nat) (definition : TypeDefinition) (registry : Registry) :
    context.EndsWithin (selectableTypes context.document).length
      (context.rootStage position definition registry)
      (context.buildBelowRoot position definition registry) := by
  have accounted : context.Accounted registry 0 (context.rootStage position definition registry) := by
    refine ⟨fun place member => resolves_of_visit_rootTasks member, [], ?_⟩
    simp [rootStage, Fresh.nil, Stage.depth, (follows_rootTasks position definition).depth_eq_zero]
  have ends := endsWithin_of_accounted (.inl rfl) accounted
  rwa [show context.completed (context.rootStage position definition registry)
    = context.buildBelowRoot position definition registry from rfl] at ends

theorem answered_of_endsWithin {bound : Nat} {outcome : Outcome}
    (queryTypes : List SelectionGen.Projection) (ends : context.EndsWithin bound first outcome) :
    Answered (queryTypes.length + bound) (outcome.result queryTypes, outcome) := by
  obtain ⟨last, walk, _, rfl⟩ := ends.ends
  cases ending : last.sofar.clash with
  | some clash => exact .inr ⟨clash, by simp [Outcome.result, ending], ending⟩
  | none =>
    have given := (ends.bounded last walk).2
    exact .inl ⟨{ queryTypes, clientProjections := last.sofar.projections },
      by simp [Outcome.result, ending], ending, Nat.add_le_add_left given _⟩

/-- **Every build ends.** Whatever the schema, the settings and the registry, no build goes on for ever: it
comes to a result or to a clash, and neither gives out more projections nor nests deeper than there
are names of objects and interfaces that the document defines, and one more. The one more is for a
type that is built under a name of its own choosing, or for the root. -/
theorem builds_end (context : Context) :
    let types := (selectableTypes context.document).length
    (∀ baseName position definition registry,
      let built := context.buildType baseName position definition registry
      context.EndsWithin (types + 1) (context.typeStage baseName position definition registry) built.2 ∧
        Answered (types + 1) built) ∧
    (∀ position definition registry,
      let built := context.buildRoot position definition registry
      context.EndsWithin types (context.rootStage position definition registry) built.2 ∧
        Answered (types + 1) built) ∧
    (∀ position definition,
      (context.generate position definition).1 = (context.buildRoot position definition []).1) := by
  refine ⟨fun baseName position definition registry => ?_, fun position definition registry => ?_,
    fun position definition => ?_⟩
  · have ends := context.typeStage_endsWithin baseName position definition registry
    have answered := answered_of_endsWithin [] ends
    rw [List.length_nil, Nat.zero_add] at answered
    exact ⟨ends, answered⟩
  · have ends := context.rootStage_endsWithin position definition registry
    have answered := answered_of_endsWithin [context.rootProjectionOf position definition] ends
    rw [List.length_singleton, Nat.add_comm] at answered
    exact ⟨ends, answered⟩
  · simp only [generate]
    cases (context.buildRoot position definition []).1 <;> rfl

end Context

end SelectionGen.Projection
