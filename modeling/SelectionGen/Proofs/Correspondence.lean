import Mathlib.Data.List.Forall2
import SelectionGen.Proofs.Runs

/-! Runs that go side by side. Pair the types of two schemas so that paired types have one name and one
description, and their surviving fields match one by one: in name, in description, and in leading to
paired types or nowhere. Then two walks that begin with paired types register the same classes in the
same order and give out the same projections. Where the types stand and what their fields look like
otherwise has no part in what is generated. -/
namespace SelectionGen

/-! Relations between values that may be absent, and between the items of two lists. -/

theorem optionRel_mono {α β : Type} {r s : α → β → Prop} (weaker : ∀ x y, r x y → s x y) {x : Option α}
    {y : Option β} (related : Option.Rel r x y) : Option.Rel s x y := by
  cases related with
  | none => exact .none
  | some pair => exact .some (weaker _ _ pair)

theorem optionRel_of_some {α β : Type} {r : α → β → Prop} {x : Option α} {y : Option β}
    (there : ∀ item, x = some item → ∃ other, y = some other ∧ r item other)
    (back : ∀ other, y = some other → x.isSome = true) : Option.Rel r x y := by
  cases x with
  | some item =>
    obtain ⟨other, rfl, related⟩ := there item rfl
    exact .some related
  | none =>
    cases y with
    | none => exact .none
    | some other => exact absurd (back other rfl) Bool.false_ne_true

/-- What is on the right of related lists is related to something on the left. -/
theorem exists_left_of_mem {α β : Type} {related : α → β → Prop} {left : List α} {right : List β} {item : β}
    (lists : List.Forall₂ related left right) (member : item ∈ right) : ∃ other ∈ left, related other item := by
  induction lists with
  | nil => cases member
  | cons here _ ih =>
    rcases List.mem_cons.mp member with rfl | later
    · exact ⟨_, List.mem_cons_self, here⟩
    · obtain ⟨other, listed, found⟩ := ih later
      exact ⟨other, List.mem_cons_of_mem _ listed, found⟩

/-- Where something is done for all items of a list, it is done for each. -/
theorem each_of_mapM {α β ε : Type} {f : α → Except ε β} {items : List α} {results : List β}
    (done : items.mapM f = .ok results) : List.Forall₂ (fun item result => f item = .ok result) items results := by
  induction items generalizing results with
  | nil =>
    obtain rfl : [] = results := Except.ok.inj done
    exact .nil
  | cons item items ih =>
    rw [List.mapM_cons] at done
    cases here : f item with
    | error error => rw [here] at done; cases done
    | ok result =>
      cases later : items.mapM f with
      | error error => rw [here, later] at done; cases done
      | ok others =>
        rw [here, later] at done
        obtain rfl : result :: others = results := Except.ok.inj done
        exact .cons here (ih later)

theorem mapM_of_each {α β ε : Type} {f : α → Except ε β} {g : α → β} {items : List α}
    (each : ∀ item ∈ items, f item = .ok (g item)) : items.mapM f = .ok (items.map g) := by
  induction items with
  | nil => rfl
  | cons item items ih =>
    rw [List.mapM_cons, each item List.mem_cons_self, ih fun other member => each other (List.mem_cons_of_mem _ member)]
    rfl

namespace Projection

open Sdl Schema

/-- Fields that ask for the same accessor, when paired types have the same name. -/
structure FieldsMatch (paired : Target → Target → Prop) (field other : ResolvedField) : Prop where
  name : field.field.name = other.field.name
  description : field.field.description = other.field.description
  target : Option.Rel paired field.target? other.target?

theorem FieldsMatch.leads_eq {paired : Target → Target → Prop} {field other : ResolvedField}
    (alike : FieldsMatch paired field other) : field.target?.isSome = other.target?.isSome := by
  have related := alike.target
  generalize field.target? = target at related
  generalize other.target? = found at related
  cases related <;> rfl

namespace Context

/-- A pairing of types along which two contexts generate the same classes. -/
structure Corresponds (first second : Context) (paired : Target → Target → Prop) : Prop where
  package : first.settings.clientPackage = second.settings.clientPackage
  name : ∀ target other, paired target other → target.name = other.name
  description : ∀ target other, paired target other → target.2.description = other.2.description
  fields : ∀ target other, paired target other →
    List.Forall₂ (FieldsMatch paired) (first.resolvedFields false target.1 target.2)
      (second.resolvedFields false other.1 other.2)

/-- Roots of two contexts that ask for the same entry point. -/
structure RootsMatch (first second : Context) (paired : Target → Target → Prop)
    (root other : Target) : Prop where
  name : root.name = other.name
  description : root.2.description = other.2.description
  fields : List.Forall₂ (FieldsMatch paired) (first.resolvedFields true root.1 root.2)
    (second.resolvedFields true other.1 other.2)

variable {first second : Context} {paired : Target → Target → Prop} {target other : Target}
  {targets others given : List Target} {registry final : Registry} {ending : Option Clash}

/-- Types with the same surviving fields match when these lead to paired types. -/
theorem fieldsMatch_of_surviving {isRoot : Bool} {position otherPosition : Nat}
    {definition otherDefinition : TypeDefinition}
    (same : survivingFields first.settings first.document position definition
      = survivingFields second.settings second.document otherPosition otherDefinition)
    (leads : ∀ field, Option.Rel paired (first.resolvedField isRoot field).target?
      (second.resolvedField isRoot field).target?) :
    List.Forall₂ (FieldsMatch paired) (first.resolvedFields isRoot position definition)
      (second.resolvedFields isRoot otherPosition otherDefinition) := by
  simp only [resolvedFields, ← same, List.forall₂_map_left_iff, List.forall₂_map_right_iff,
    List.forall₂_same]
  exact fun field _ => ⟨rfl, rfl, leads field⟩

theorem targets_paired {fields otherFields : List ResolvedField}
    (matching : List.Forall₂ (FieldsMatch paired) fields otherFields) :
    List.Forall₂ paired (fields.filterMap ResolvedField.target?)
      (otherFields.filterMap ResolvedField.target?) :=
  List.rel_filterMap (fun _ _ alike => alike.target) matching

/-- Fields that match select alike. -/
theorem selector_of_match (package : first.settings.clientPackage = second.settings.clientPackage)
    (name : ∀ target other, paired target other → target.name = other.name) {field other : ResolvedField}
    (alike : FieldsMatch paired field other) : first.selector field = second.selector other := by
  have related := alike.target
  unfold selector
  generalize field.target? = target at related
  generalize other.target? = found at related
  cases related with
  | none => rfl
  | @some target found pair =>
    have named := name _ _ pair
    simp only [Target.name] at named
    simp only [clientClass, package, named]

namespace Corresponds

theorem className_eq (corresponds : Corresponds first second paired) (pair : paired target other) :
    target.className = other.className := by
  rw [Target.className, Target.className, Target.typeName, Target.typeName, corresponds.name _ _ pair]

theorem typeName_eq (corresponds : Corresponds first second paired) (pair : paired target other) :
    target.typeName = other.typeName :=
  congrArg Name.text (corresponds.name _ _ pair)

theorem entry_eq (corresponds : Corresponds first second paired) (pair : paired target other) :
    target.entry = other.entry :=
  Prod.ext (corresponds.className_eq pair) (corresponds.typeName_eq pair)

theorem clashOf_eq (corresponds : Corresponds first second paired) (pair : paired target other)
    (registered : String) : first.clashOf target registered = second.clashOf other registered := by
  simp only [clashOf, corresponds.package, corresponds.className_eq pair, corresponds.typeName_eq pair]

theorem targets_below (corresponds : Corresponds first second paired) (pair : paired target other) :
    List.Forall₂ paired (first.targets target) (second.targets other) :=
  targets_paired (corresponds.fields _ _ pair)

theorem selector_eq (corresponds : Corresponds first second paired) {field other : ResolvedField}
    (alike : FieldsMatch paired field other) : first.selector field = second.selector other :=
  selector_of_match corresponds.package corresponds.name alike

/-- Fields that match one by one get the same accessors, whichever names are taken before. -/
theorem accessors_eq (corresponds : Corresponds first second paired)
    {fields otherFields : List ResolvedField}
    (matching : List.Forall₂ (FieldsMatch paired) fields otherFields) (taken : List String) :
    first.accessors taken fields = second.accessors taken otherFields := by
  induction matching generalizing taken with
  | nil => rfl
  | cons alike _ ih =>
    simp only [accessors, alike.name, alike.description, corresponds.selector_eq alike, ih]

theorem projection_eq (corresponds : Corresponds first second paired) (pair : paired target other) :
    first.projection target = second.projection other := by
  have named := corresponds.name _ _ pair
  simp only [Target.name] at named
  simp only [projection, projectionOf, corresponds.package, corresponds.className_eq pair, named,
    corresponds.description _ _ pair, corresponds.accessors_eq (corresponds.fields _ _ pair)]

theorem projections_eq (corresponds : Corresponds first second paired)
    (pairs : List.Forall₂ paired targets others) :
    targets.map first.projection = others.map second.projection := by
  induction pairs with
  | nil => rfl
  | cons pair _ ih => rw [List.map_cons, List.map_cons, corresponds.projection_eq pair, ih]

/-- A descent is accompanied by one along the paired types, which registers the same and ends alike. -/
theorem descent (corresponds : Corresponds first second paired)
    (descent : first.Descent targets registry given final ending)
    (pairs : List.Forall₂ paired targets others) :
    ∃ otherGiven, second.Descent others registry otherGiven final ending ∧
      List.Forall₂ paired given otherGiven := by
  induction descent generalizing others with
  | done =>
    cases pairs
    exact ⟨[], .done, .nil⟩
  | met known _ ih =>
    cases pairs with
    | cons pair later =>
      rw [corresponds.className_eq pair, corresponds.typeName_eq pair] at known
      obtain ⟨otherGiven, rest, alike⟩ := ih later
      exact ⟨otherGiven, .met known rest, alike⟩
  | refused taken differs =>
    cases pairs with
    | cons pair later =>
      rw [corresponds.className_eq pair] at taken
      rw [corresponds.typeName_eq pair] at differs
      rw [corresponds.clashOf_eq pair]
      exact ⟨[], .refused taken differs, .nil⟩
  | broken fresh _ ih =>
    cases pairs with
    | cons pair later =>
      obtain ⟨otherGiven, inside, alike⟩ := ih (corresponds.targets_below pair)
      rw [corresponds.className_eq pair] at fresh
      rw [corresponds.entry_eq pair] at inside
      exact ⟨otherGiven, .broken fresh inside, alike⟩
  | finished fresh _ _ ihInside ihRest =>
    cases pairs with
    | cons pair later =>
      obtain ⟨otherBelow, inside, alikeBelow⟩ := ihInside (corresponds.targets_below pair)
      obtain ⟨otherAfter, rest, alikeAfter⟩ := ihRest later
      rw [corresponds.className_eq pair] at fresh
      rw [corresponds.entry_eq pair] at inside
      exact ⟨_, .finished fresh inside rest, List.rel_append alikeBelow (.cons pair alikeAfter)⟩

variable {position otherPosition : Nat} {definition otherDefinition : TypeDefinition}

theorem rootProjectionOf_eq (corresponds : Corresponds first second paired)
    (queries : first.settings.queriesPackage = second.settings.queriesPackage)
    (roots : RootsMatch first second paired (position, definition) (otherPosition, otherDefinition)) :
    first.rootProjectionOf position definition
      = second.rootProjectionOf otherPosition otherDefinition := by
  have kept : List.Forall₂ (FieldsMatch paired)
      ((first.resolvedFields true position definition).filter fun field => field.target?.isSome)
      ((second.resolvedFields true otherPosition otherDefinition).filter fun field =>
        field.target?.isSome) := by
    refine List.rel_filter (fun field other alike => ?_) roots.fields
    simp only [alike.leads_eq]
  have named := roots.name
  have described := roots.description
  simp only [Target.name] at named described
  simp only [rootProjectionOf, queries, named, described, corresponds.accessors_eq kept]

/-- Runs from roots that match have the same result. -/
theorem generate_eq (corresponds : Corresponds first second paired)
    (queries : first.settings.queriesPackage = second.settings.queriesPackage)
    (roots : RootsMatch first second paired (position, definition) (otherPosition, otherDefinition)) :
    (first.generate position definition).1
      = (second.generate otherPosition otherDefinition).1 := by
  obtain ⟨given, final, ending, descent, result⟩ := generate_cases first position definition
  obtain ⟨otherGiven, otherFinal, otherEnding, otherDescent, otherResult⟩ :=
    generate_cases second otherPosition otherDefinition
  obtain ⟨paralleled, parallel, alike⟩ := corresponds.descent descent (targets_paired roots.fields)
  obtain ⟨rfl, -, rfl⟩ := parallel.unique otherDescent
  rw [result, otherResult, corresponds.rootProjectionOf_eq queries roots,
    corresponds.projections_eq alike]

end Corresponds

/-- Schemas that correspond from their roots on give the same result. -/
theorem outcome_eq_of_corresponds {settings otherSettings : Settings} {document otherDocument : Document}
    {paired : Target → Target → Prop}
    (corresponds : Corresponds ⟨settings, document⟩ ⟨otherSettings, otherDocument⟩ paired)
    (queries : settings.queriesPackage = otherSettings.queriesPackage)
    (wanted : settings.generatesClient = otherSettings.generatesClient)
    (roots : Option.Rel (RootsMatch ⟨settings, document⟩ ⟨otherSettings, otherDocument⟩ paired)
      (findRoot? document .query) (findRoot? otherDocument .query)) :
    (Generation.ofGivenDocument settings [] document).outcome
      = (Generation.ofGivenDocument otherSettings [] otherDocument).outcome := by
  by_cases generates : settings.generatesClient = true
  · have alsoGenerates : otherSettings.generatesClient = true := wanted ▸ generates
    cases root : findRoot? document .query with
    | none =>
      cases otherRoot : findRoot? otherDocument .query with
      | none => rw [Generation.outcome_without_root root, Generation.outcome_without_root otherRoot]
      | some _ =>
        rw [root, otherRoot] at roots
        cases roots
    | some _ =>
      cases otherRoot : findRoot? otherDocument .query with
      | none =>
        rw [root, otherRoot] at roots
        cases roots
      | some _ =>
        rw [root, otherRoot] at roots
        obtain ⟨alike⟩ := roots
        rw [Generation.outcome_of_root generates root,
          Generation.outcome_of_root alsoGenerates otherRoot, corresponds.generate_eq queries alike]
  · have unwanted : ¬ otherSettings.generatesClient = true := wanted ▸ generates
    rw [Generation.outcome_unwanted generates, Generation.outcome_unwanted unwanted]

end Context

end Projection

end SelectionGen
