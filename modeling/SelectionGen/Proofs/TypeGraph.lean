import Mathlib.Logic.Relation
import SelectionGen.Projection.Walk
import SelectionGen.Proofs.Lookup

/-! The types that a type leads to, as a graph. A reference that leads to an object or interface leads to
the first definition of its name, whether or not its field has arguments. So within a document a type
that fields lead to is known by its name, and the walk may tell types apart by names alone. -/
namespace SelectionGen.Projection

open Sdl Schema

/-- A type that selections go on in: where its definition stands, and the definition. -/
abbrev Target := Nat × TypeDefinition

namespace Target

def name (target : Target) : Name := target.2.name

def typeName (target : Target) : String := target.name.text

/-- The class that the projection of the type is generated in. -/
def className (target : Target) : String := Projection.className target.typeName

/-- What the registry holds once the type was met. -/
def entry (target : Target) : String × String := (target.className, target.typeName)

end Target

/-- A reference scope that finds neither scalars nor extensions. -/
def plainScope : LookupScope := { excludeExtensions := true }

namespace Context

/-- The type is what references by its name lead to, and fields can be selected on it. -/
def Resolves (context : Context) (target : Target) : Prop :=
  findType? context.document target.name plainScope = some target ∧ target.2.isProjectable = true

/-- A field with what its type leads to. -/
def resolvedField (context : Context) (isRoot : Bool) (field : Field) : ResolvedField :=
  ⟨field, resolve? context.document field.type (fieldScope isRoot field)⟩

/-- The types that the surviving fields of a type lead to, in the order of the fields. -/
def targets (context : Context) (target : Target) : List Target :=
  (context.resolvedFields false target.1 target.2).filterMap ResolvedField.target?

/-- The types that the surviving fields of a root lead to, in the order of the fields. -/
def rootTargets (context : Context) (position : Nat) (definition : TypeDefinition) : List Target :=
  (context.resolvedFields true position definition).filterMap ResolvedField.target?

/-- One step along a field. -/
def Leads (context : Context) (target next : Target) : Prop := next ∈ context.targets target

/-- The least set of types that holds given ones and, with each type, those its fields lead to. -/
inductive Reached (context : Context) (starts : List Target) : Target → Prop
  | start (member : target ∈ starts) : Reached context starts target
  | step (reached : Reached context starts target) (leads : context.Leads target next) :
      Reached context starts next

variable {context : Context} {target other : Target}

/-- Types that references lead to are told apart by their names. -/
theorem Resolves.ext (first : context.Resolves target) (second : context.Resolves other)
    (same : target.typeName = other.typeName) : target = other := by
  have named : target.name = other.name := Name.ext same
  have found := first.1
  rw [named, second.1] at found
  exact (Option.some.inj found).symm

theorem Resolves.entry_ext (first : context.Resolves target) (second : context.Resolves other)
    (same : target.entry = other.entry) : target = other :=
  first.ext second (congrArg Prod.snd same)

theorem Resolves.typeAt (resolves : context.Resolves target) :
    typeAt? context.document target.1 = some target.2 :=
  (findType_eq_some_iff.mp resolves.1).stored

/-- References lead to definitions of types, not to extensions. -/
theorem Resolves.isDefinition (resolves : context.Resolves target) : target.2.isExtension = false := by
  have admitted := (findType_eq_some_iff.mp resolves.1).fits.2
  cases kind : target.2.kind <;> simp_all [plainScope, LookupScope.admits]

private theorem plain_narrower (isRoot : Bool) (field : Field) (definition : TypeDefinition)
    (admitted : plainScope.admits definition = true) :
    (fieldScope isRoot field).admits definition = true := by
  cases kind : definition.kind <;> simp_all [plainScope, fieldScope, LookupScope.admits]

private theorem plain_admits_projectable (isRoot : Bool) (field : Field)
    (projectable : target.2.isProjectable = true)
    (admitted : (fieldScope isRoot field).admits target.2 = true) :
    plainScope.admits target.2 = true := by
  cases kind : target.2.kind <;>
    simp_all [plainScope, fieldScope, LookupScope.admits, TypeDefinition.isProjectable]

/-- A field leads to the first type that its lookup admits, unless that stops at a scalar that needs no
definition or at a type without fields to select. -/
theorem target_eq_some_iff {isRoot : Bool} {field : Field} :
    (context.resolvedField isRoot field).target? = some target ↔
      ((fieldScope isRoot field).includeBuiltins && isBuiltinScalar field.type.named.text) = false ∧
        IsFirst context.document (Admitted field.type.named (fieldScope isRoot field)) target ∧
        target.2.isProjectable = true := by
  rw [ResolvedField.target?, resolvedField, resolve?]
  cases (fieldScope isRoot field).includeBuiltins && isBuiltinScalar field.type.named.text with
  | true => simp [Resolution.projectable?]
  | false =>
    rw [← findType_eq_some_iff]
    cases findType? context.document field.type.named (fieldScope isRoot field) with
    | none => simp
    | some found =>
      simp only [Resolution.projectable?, Bool.false_eq_true, if_false, Option.map_some,
        Option.bind_some, Option.ite_none_right_eq_some, Option.some.injEq, true_and]
      constructor
      · rintro ⟨projectable, rfl⟩
        exact ⟨rfl, projectable⟩
      · rintro ⟨rfl, projectable⟩
        exact ⟨projectable, rfl⟩

/-- What a field leads to is the first definition of the name it refers to, though with arguments the
field could also have found a scalar. -/
theorem resolves_of_field {isRoot : Bool} {field : Field}
    (leads : (context.resolvedField isRoot field).target? = some target) : context.Resolves target := by
  obtain ⟨_, isFirst, projectable⟩ := target_eq_some_iff.mp leads
  obtain ⟨named, admitted⟩ := isFirst.fits
  refine ⟨findType_eq_some_iff.mpr (isFirst.narrow ?_ ?_), projectable⟩
  · exact fun other wants => ⟨wants.1.trans named, plain_narrower isRoot field other wants.2⟩
  · exact ⟨rfl, plain_admits_projectable isRoot field projectable admitted⟩

theorem resolves_of_target {isRoot : Bool} {position : Nat} {definition : TypeDefinition}
    {resolved : ResolvedField} (member : resolved ∈ context.resolvedFields isRoot position definition)
    (leads : resolved.target? = some target) : context.Resolves target := by
  obtain ⟨field, _, rfl⟩ := List.mem_map.mp member
  exact resolves_of_field leads

theorem resolves_of_mem_targets (member : other ∈ context.targets target) :
    context.Resolves other := by
  obtain ⟨resolved, inFields, leads⟩ := List.mem_filterMap.mp member
  exact resolves_of_target inFields leads

theorem resolves_of_mem_rootTargets {position : Nat} {definition : TypeDefinition}
    (member : target ∈ context.rootTargets position definition) : context.Resolves target := by
  obtain ⟨resolved, inFields, leads⟩ := List.mem_filterMap.mp member
  exact resolves_of_target inFields leads

theorem Reached.resolves {starts : List Target}
    (resolving : ∀ start ∈ starts, context.Resolves start)
    (reached : context.Reached starts target) : context.Resolves target := by
  cases reached with
  | start member => exact resolving _ member
  | step _ leads => exact resolves_of_mem_targets leads

/-- What the fields of a type lead to lies below the type. -/
theorem reached_of_path (start : Target) (reached : context.Reached (context.targets start) target) :
    Relation.ReflTransGen context.Leads start target := by
  induction reached with
  | start member => exact .single member
  | step _ leads ih => exact ih.tail leads

/-- The projection of a type under the class of its own name. -/
def projection (context : Context) (target : Target) : SelectionGen.Projection :=
  context.projectionOf target.className target.1 target.2

end Context

end SelectionGen.Projection

/-! What the accessors of a projection do, apart from how they are named. A class has one accessor for each
surviving field of its type, in the order of the fields; the entry point of a root has one for each
field that leads to a type. Where an accessor goes on depends on the field alone. -/
namespace SelectionGen

/-- What an accessor records, where it goes on, and how it is described. -/
def Accessor.meaning (accessor : Accessor) : String × Selector × Option String :=
  (accessor.fieldName, accessor.selector, accessor.description)

namespace Projection.Context

variable {context : Context}

/-- What an accessor for a field has to do. -/
def fieldMeaning (context : Context) (resolved : ResolvedField) : String × Selector × Option String :=
  (resolved.field.name.text, context.selector resolved, resolved.field.description)

/-- What an accessor for a field has to do when the field leads to a type. -/
def entryMeaning? (context : Context) (resolved : ResolvedField) :
    Option (String × Selector × Option String) :=
  resolved.target?.map fun (target : Target) =>
    (resolved.field.name.text, .composite (context.clientClass target.name),
      resolved.field.description)

theorem selector_of_target {resolved : ResolvedField} {target : Target}
    (leads : resolved.target? = some target) :
    context.selector resolved = .composite (context.clientClass target.name) := by
  simp [selector, leads, Target.name]

theorem target_of_selector {resolved : ResolvedField} {sub : ClassRef}
    (selects : context.selector resolved = .composite sub) :
    ∃ target : Target, resolved.target? = some target ∧ sub = context.clientClass target.name := by
  cases leads : resolved.target? with
  | none => simp [selector, leads] at selects
  | some target =>
    rw [selector_of_target leads] at selects
    cases selects
    exact ⟨target, rfl, rfl⟩

/-- Which names are taken decides how accessors are named, not what they do. -/
theorem accessors_meaning (taken : List String) (fields : List ResolvedField) :
    (context.accessors taken fields).map Accessor.meaning = fields.map context.fieldMeaning := by
  induction fields generalizing taken with
  | nil => rfl
  | cons resolved rest ih => simp [accessors, Accessor.meaning, fieldMeaning, ih]

theorem field_of_accessor {fields : List ResolvedField} {taken : List String} {accessor : Accessor}
    (member : accessor ∈ context.accessors taken fields) :
    ∃ resolved ∈ fields, accessor.meaning = context.fieldMeaning resolved := by
  have listed := List.mem_map_of_mem (f := Accessor.meaning) member
  rw [accessors_meaning] at listed
  obtain ⟨resolved, inFields, same⟩ := List.mem_map.mp listed
  exact ⟨resolved, inFields, same.symm⟩

/-- An accessor that goes on in a class stands for a field that leads to a type of that class. -/
theorem field_of_composite {fields : List ResolvedField} {taken : List String} {accessor : Accessor}
    {sub : ClassRef} (member : accessor ∈ context.accessors taken fields)
    (composite : accessor.selector = .composite sub) :
    ∃ resolved ∈ fields, ∃ target : Target, resolved.target? = some target ∧
      accessor.fieldName = resolved.field.name.text ∧ sub = context.clientClass target.name := by
  obtain ⟨resolved, inFields, same⟩ := field_of_accessor member
  simp only [Accessor.meaning, fieldMeaning, Prod.mk.injEq] at same
  obtain ⟨target, leads, named⟩ := target_of_selector (same.2.1.symm.trans composite)
  exact ⟨resolved, inFields, target, leads, same.1, named⟩

/-- A field that leads to a type has an accessor that goes on in the class of the type. -/
theorem composite_of_field {fields : List ResolvedField} {resolved : ResolvedField} {target : Target}
    (taken : List String) (member : resolved ∈ fields) (leads : resolved.target? = some target) :
    ∃ accessor ∈ context.accessors taken fields,
      accessor.selector = .composite (context.clientClass target.name) := by
  have listed := List.mem_map_of_mem (f := context.fieldMeaning) member
  rw [← accessors_meaning taken] at listed
  obtain ⟨accessor, inAccessors, same⟩ := List.mem_map.mp listed
  simp only [Accessor.meaning, fieldMeaning, Prod.mk.injEq] at same
  exact ⟨accessor, inAccessors, same.2.1.trans (selector_of_target leads)⟩

/-- A projection has one accessor for each surviving field. -/
theorem projectionOf_meaning (name : String) (position : Nat) (definition : Sdl.TypeDefinition) :
    (context.projectionOf name position definition).accessors.map Accessor.meaning
      = (context.resolvedFields false position definition).map context.fieldMeaning :=
  accessors_meaning _ _

/-- An entry point has one composite accessor for each surviving field that leads to a type. -/
theorem rootProjectionOf_meaning (position : Nat) (definition : Sdl.TypeDefinition) :
    (context.rootProjectionOf position definition).accessors.map Accessor.meaning
      = (context.resolvedFields true position definition).filterMap context.entryMeaning? := by
  rw [rootProjectionOf, accessors_meaning]
  induction context.resolvedFields true position definition with
  | nil => rfl
  | cons resolved rest ih =>
    cases leads : resolved.target? with
    | none => simpa [leads, entryMeaning?] using ih
    | some target => simpa [leads, entryMeaning?, fieldMeaning, selector_of_target leads] using ih

end Projection.Context

end SelectionGen
