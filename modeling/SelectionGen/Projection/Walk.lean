import SelectionGen.Journal
import SelectionGen.Projection.Build

/-! The walk over the types that a root leads to. A registry holds the classes met so far with the type
each was met for. A class enters it before the fields of its type are followed, so a cycle of types
comes back to a registered class and stops; its projection is given out behind those of the types
below. The agenda of what is left to do makes the depth of the walk visible: it holds one `finish`
for each type whose fields are still being followed. -/
namespace SelectionGen.Projection

open Sdl Schema

/-- The classes met so far, in the order they were met, each with the name of its type. -/
abbrev Registry := List (String × String)

/-- Two types for one class: the one registered and the one that came later. -/
structure Clash where
  package : String
  className : String
  registered : String
  refused : String
deriving DecidableEq, Repr

def Clash.message (clash : Clash) : String :=
  "Types " ++ clash.registered ++ " and " ++ clash.refused ++ " both generate " ++ clash.className ++
    " in package " ++ clash.package

/-- What is left to do: report an event, visit the type at a position, or give out a projection. -/
inductive Task
  | report (event : Event)
  | visit (position : Nat)
  | finish (projection : Projection)
deriving Repr

/-- How a walk ended: the projections given out, the registry left behind, what was reported, and the
clash that broke it off, if one did. -/
structure Outcome where
  projections : List Projection := []
  registry : Registry
  journal : Journal := []
  clash : Option Clash := none
deriving Repr

namespace Outcome

def reporting (event : Event) (outcome : Outcome) : Outcome :=
  { outcome with journal := event :: outcome.journal }

def giving (projection : Projection) (outcome : Outcome) : Outcome :=
  { outcome with projections := projection :: outcome.projections }

end Outcome

namespace Context

/-- The reports on fields that merging leaves out. -/
def repeatReports (context : Context) (position : Nat) (definition : TypeDefinition) : List Task :=
  (repeatedFields context.document position definition).map fun field =>
    .report (.repeatedField definition.name.text field.name.text)

/-- What following one field of a type takes. -/
def fieldTasks (owner : Name) (resolved : ResolvedField) : List Task :=
  match resolved.target?, resolved.resolution with
  | some (position, _), _ => [.visit position]
  | none, none => [.report (.undefinedFieldType owner.text resolved.field.name.text)]
  | none, some _ => []

/-- What following one field of the root takes. -/
def rootFieldTasks (owner : Name) (resolved : ResolvedField) : List Task :=
  match resolved.target? with
  | some (position, _) => [.visit position]
  | none => [.report (.rootFieldSkipped owner.text resolved.field.name.text)]

/-- Everything a type takes once its class is registered. -/
def typeTasks (context : Context) (name : String) (position : Nat) (definition : TypeDefinition) :
    List Task :=
  context.repeatReports position definition
    ++ (context.resolvedFields false position definition).flatMap (fieldTasks definition.name)
    ++ [.finish (context.projectionOf name position definition)]

/-- Everything the root takes; it is no class of the client and is not registered. -/
def rootTasks (context : Context) (position : Nat) (definition : TypeDefinition) : List Task :=
  context.repeatReports position definition
    ++ (context.resolvedFields true position definition).flatMap (rootFieldTasks definition.name)

/-- The classes of the types that a document defines. -/
def definedClasses (document : Document) : List String :=
  document.filterMap fun definition => definition.type?.map fun found => className found.name.text

/-- How many classes of the document's types are not registered yet, repetitions counted. -/
def unregistered (document : Document) (registry : Registry) : Nat :=
  (definedClasses document).countP fun name => (registry.lookup name).isNone

theorem mem_definedClasses {document : Document} {position : Nat} {definition : TypeDefinition}
    (found : typeAt? document position = some definition) :
    className definition.name.text ∈ definedClasses document := by
  unfold typeAt? at found
  obtain ⟨entry, stored, shape⟩ := Option.bind_eq_some_iff.mp found
  exact List.mem_filterMap.mpr ⟨entry, List.mem_of_getElem? stored, by simp [shape]⟩

private theorem countP_lt_of_imp {items : List α} {p q : α → Bool} {item : α}
    (weaker : ∀ x ∈ items, p x = true → q x = true) (member : item ∈ items)
    (fails : p item = false) (holds : q item = true) : items.countP p < items.countP q := by
  induction items with
  | nil => simp at member
  | cons first rest ih =>
    have restWeaker : ∀ x ∈ rest, p x = true → q x = true :=
      fun x inRest => weaker x (List.mem_cons_of_mem _ inRest)
    have restLe : rest.countP p ≤ rest.countP q := List.countP_mono_left restWeaker
    rcases List.mem_cons.mp member with rfl | inRest
    · simp only [List.countP_cons, fails, holds]
      simp
      omega
    · have below := ih restWeaker inRest
      have here := weaker first (List.mem_cons_self ..)
      simp only [List.countP_cons]
      split <;> split <;> first | omega | simp_all

/-- Registering a class of the document leaves fewer classes to register. -/
theorem unregistered_append_lt {document : Document} {registry : Registry} {name typeName : String}
    (member : name ∈ definedClasses document) (fresh : registry.lookup name = none) :
    unregistered document (registry ++ [(name, typeName)]) < unregistered document registry := by
  refine countP_lt_of_imp ?_ member ?_ ?_
  · intro other _ absent
    simp only [List.lookup_append, Option.isNone_iff_eq_none, Option.or_eq_none_iff] at absent
    simp [absent.1]
  · simp [List.lookup_append, fresh]
  · simp [fresh]

/-- Works an agenda off. -/
def run (context : Context) : List Task → Registry → Outcome
  | [], registry => { registry }
  | .report event :: rest, registry => (context.run rest registry).reporting event
  | .finish projection :: rest, registry => (context.run rest registry).giving projection
  | .visit position :: rest, registry =>
    match _found : typeAt? context.document position with
    | none => context.run rest registry
    | some definition =>
      match _met : registry.lookup (className definition.name.text) with
      | some other =>
        if other = definition.name.text then
          (context.run rest registry).reporting (.alreadyGenerated (className definition.name.text))
        else
          { registry
            clash := some ⟨context.settings.clientPackage, className definition.name.text, other,
              definition.name.text⟩ }
      | none =>
        context.run
          (context.typeTasks (className definition.name.text) position definition ++ rest)
          (registry ++ [(className definition.name.text, definition.name.text)])
termination_by tasks registry => (unregistered context.document registry, tasks.length)
decreasing_by
  all_goals simp_wf
  · exact .right _ (by simp)
  · exact .right _ (by simp)
  · exact .right _ (by simp)
  · exact .right _ (by simp)
  · exact .left _ _ (unregistered_append_lt (mem_definedClasses _found) _met)

/-- Generates the projection of the definition at a position under a class name of its own choosing,
and what lies below, on top of what a registry holds. -/
def buildAs (context : Context) (baseName : String) (position : Nat) (definition : TypeDefinition)
    (registry : Registry) : Outcome :=
  let typeName := definition.name.text
  match registry.lookup (className baseName) with
  | some other =>
    if other = typeName then { registry, journal := [.alreadyGenerated (className baseName)] }
    else
      { registry
        clash := some ⟨context.settings.clientPackage, className baseName, other, typeName⟩ }
  | none =>
    context.run (context.typeTasks (className baseName) position definition)
      (registry ++ [(className baseName, typeName)])

/-- Generates everything below a root type, on top of what a registry holds. -/
def buildBelowRoot (context : Context) (position : Nat) (definition : TypeDefinition)
    (registry : Registry) : Outcome :=
  context.run (context.rootTasks position definition) registry

end Context

/-- The result of a walk, unless a clash broke it off. -/
def Outcome.result (outcome : Outcome) (queryTypes : List Projection) : Except Clash Api :=
  match outcome.clash with
  | some clash => .error clash
  | none => .ok { queryTypes, clientProjections := outcome.projections }

namespace Context

/-- The entry point of a root type with everything below it, on top of what a registry holds. -/
def buildRoot (context : Context) (position : Nat) (definition : TypeDefinition)
    (registry : Registry) : Except Clash Api × Outcome :=
  let outcome := context.buildBelowRoot position definition registry
  (outcome.result [context.rootProjectionOf position definition], outcome)

/-- The projection of a type with everything below it, on top of what a registry holds. -/
def buildType (context : Context) (baseName : String) (position : Nat) (definition : TypeDefinition)
    (registry : Registry) : Except Clash Api × Outcome :=
  let outcome := context.buildAs baseName position definition registry
  (outcome.result [], outcome)

/-- Everything that a root type leads to, from an empty registry, and what was reported. -/
def generate (context : Context) (position : Nat) (definition : TypeDefinition) :
    Except Clash Api × Journal :=
  let (result, outcome) := context.buildRoot position definition []
  match result with
  | .error clash => (.error clash, outcome.journal)
  | .ok api =>
    (.ok api, outcome.journal ++
      [.generated api.queryTypes.length api.clientProjections.length definition.name.text])

end Context

end SelectionGen.Projection
