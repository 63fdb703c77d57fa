import SelectionGen.Proofs.DefinitionOrder
import SelectionGen.Proofs.Filtering
import SelectionGen.Proofs.Pruning

/-! Fields reduced to what generation reads of them. Wrappers are taken off before a type is looked up, and of the
directives one counts. Arguments do count for a single lookup: a field that has some also finds scalars,
those that need no definition before all others. Both kinds of lookup agree on where fields lead if no
scalar goes by the name of anything else, so that arguments may go as well. -/
namespace SelectionGen.Schema

open Sdl

/-- A field with its bare type, without arguments, and with no directives but those that leave it out. -/
def plainField (field : Field) : Field :=
  { field with
    type := ⟨[], field.type.named⟩
    arguments := []
    directives := field.directives.filter fun name => name.text == skipDirective }

def plainType (definition : TypeDefinition) : TypeDefinition :=
  { definition with fields := definition.fields.map plainField }

/-- The document with all its fields plain. -/
def plain (document : Document) : Document := mapTypes plainType document

/-- Nothing but scalars goes by the name of a scalar that needs no definition. -/
def BuiltinsFree (document : Document) : Prop :=
  ∀ definition, .type definition ∈ document → definition.isExtension = false → definition.kind ≠ .scalar →
    isBuiltinScalar definition.name.text = false

variable {document : Document} {definition : TypeDefinition} {position : Nat} {name : Name}

theorem keepsHeads_plainType : KeepsHeads plainType := ⟨fun _ => rfl, fun _ => rfl, fun _ => rfl⟩

/-! What is merged and what survives stays the same, field by field. -/

theorem isSkipped_plainField (field : Field) : isSkipped (plainField field) = isSkipped field := by
  rw [isSkipped, isSkipped, plainField, List.any_filter]
  simp only [Bool.and_self]

theorem keepsField_plainField (settings : Settings) (owner : String) (field : Field) :
    keepsField settings owner (plainField field) = keepsField settings owner field := by
  rw [keepsField, keepsField, isSkipped_plainField]
  rfl

theorem extensionFields_plain (entry : Definition) :
    extensionFields name (mapEntry plainType entry) = (extensionFields name entry).map plainField :=
  extensionFields_mapEntry keepsHeads_plainType rfl (fun _ _ => rfl) entry

theorem candidateFields_plain (document : Document) (position : Nat) (definition : TypeDefinition) :
    candidateFields (plain document) position (plainType definition)
      = (candidateFields document position definition).map plainField := by
  have named : (plainType definition).name = definition.name := rfl
  have others : (plain document).eraseIdx position = (document.eraseIdx position).map (mapEntry plainType) := by
    rw [plain, mapTypes, List.eraseIdx_eq_take_drop_succ, List.eraseIdx_eq_take_drop_succ, List.map_append,
      List.map_take, List.map_drop]
  rw [candidateFields, candidateFields, others, named, List.map_append, List.map_flatMap, List.flatMap_map]
  simp only [extensionFields_plain]
  rfl

theorem firstOccurrences_plain (seen : List Name) (fields : List Field) :
    firstOccurrences seen (fields.map plainField) = (firstOccurrences seen fields).map plainField := by
  induction fields generalizing seen with
  | nil => rfl
  | cons field rest ih =>
    have named : (plainField field).name = field.name := rfl
    simp only [List.map_cons, firstOccurrences, named, ih]
    split <;> rfl

theorem survivingFields_plain (settings : Settings) (document : Document) (position : Nat)
    (definition : TypeDefinition) :
    survivingFields settings (plain document) position (plainType definition)
      = (survivingFields settings document position definition).map plainField := by
  have kept : (fun field => keepsField settings definition.name.text (plainField field))
      = keepsField settings definition.name.text :=
    funext (keepsField_plainField settings definition.name.text)
  have named : (plainType definition).name = definition.name := rfl
  rw [survivingFields, survivingFields, mergedFields, mergedFields, candidateFields_plain,
    firstOccurrences_plain, filteredFields_eq_filter, filteredFields_eq_filter, List.filter_map, named]
  exact congrArg (fun keeps => ((firstOccurrences [] _).filter keeps).map plainField) kept

/-! The document keeps its meanings. -/

theorem Unambiguous.plain (unambiguous : Unambiguous document) : Unambiguous (plain document) where
  once := by
    have names : (Schema.plain document).filterMap definedName? = document.filterMap definedName? := by
      rw [Schema.plain, mapTypes, List.filterMap_map]
      apply List.filterMap_congr
      intro entry _
      cases entry <;> rfl
    rw [names]
    exact unambiguous.once
  scalars := by
    intro definition extension member alsoMember
    obtain ⟨definition, inDocument, rfl⟩ := mem_mapTypes.mp member
    obtain ⟨extension, alsoInDocument, rfl⟩ := mem_mapTypes.mp alsoMember
    exact unambiguous.scalars definition extension inDocument alsoInDocument

theorem BuiltinsFree.plain (free : BuiltinsFree document) : BuiltinsFree (plain document) := by
  intro definition member
  obtain ⟨definition, inDocument, rfl⟩ := mem_mapTypes.mp member
  exact free definition inDocument

/-! Filters go by names, so they take the same types from a document and from its plain form. -/

theorem Unambiguous.applyAll (unambiguous : Unambiguous document) (filters : List TypeFilter) :
    Unambiguous (TypeFilter.applyAll filters document) where
  once := unambiguous.once.sublist ((TypeFilter.applyAll_sublist filters document).filterMap definedName?)
  scalars := fun definition extension member alsoMember =>
    unambiguous.scalars definition extension ((TypeFilter.applyAll_sublist filters document).mem member)
      ((TypeFilter.applyAll_sublist filters document).mem alsoMember)

theorem BuiltinsFree.applyAll (free : BuiltinsFree document) (filters : List TypeFilter) :
    BuiltinsFree (TypeFilter.applyAll filters document) :=
  fun definition member => free definition ((TypeFilter.applyAll_sublist filters document).mem member)

theorem applyAll_plain (filters : List TypeFilter) (document : Document) :
    TypeFilter.applyAll filters (plain document) = plain (TypeFilter.applyAll filters document) := by
  have leaves : TypeFilter.leave filters ∘ mapEntry plainType = TypeFilter.leave filters := by
    funext entry
    cases entry <;> rfl
  rw [TypeFilter.applyAll_eq_filter, TypeFilter.applyAll_eq_filter, plain, plain, mapTypes, mapTypes,
    List.filter_map, leaves]

end SelectionGen.Schema

namespace SelectionGen.Projection.Context

open Sdl Schema

variable {document : Document} {settings : Settings} {target : Target} {isRoot : Bool} {field : Field}

/-- In a document whose names are clear, a field leads to the object or interface that is defined under the name
it refers to, whether or not it has arguments. -/
theorem target_eq_some_iff_named (unambiguous : Unambiguous document) (free : BuiltinsFree document) :
    (resolvedField ⟨settings, document⟩ isRoot field).target? = some target ↔
      typeAt? document target.1 = some target.2 ∧ target.2.name = field.type.named ∧
        target.2.isExtension = false ∧ target.2.isProjectable = true := by
  constructor
  · intro leads
    obtain ⟨_, isFirst, projectable⟩ := target_eq_some_iff.mp leads
    exact ⟨isFirst.stored, isFirst.fits.1, (resolves_of_field leads).isDefinition, projectable⟩
  · rintro ⟨stored, named, defines, projectable⟩
    -- Arguments add scalars to what the lookup finds, and none of these goes by the name of this type.
    have nonScalar : target.2.kind ≠ .scalar := by
      intro scalar
      simp [TypeDefinition.isProjectable, scalar] at projectable
    have isFirst : IsFirst document (Admitted target.2.name (fieldScope isRoot field)) target :=
      unambiguous.isFirst stored defines nonScalar rfl
    have declared : isBuiltinScalar target.2.name.text = false :=
      free target.2 (List.mem_of_getElem? (typeAt_eq_some_iff.mp stored)) defines nonScalar
    rw [named] at isFirst declared
    exact target_eq_some_iff.mpr ⟨by rw [declared, Bool.and_false], isFirst, projectable⟩

/-- A type that fields lead to, as it is and with its fields plain. -/
def PlainAlike (context : Context) (target other : Target) : Prop :=
  context.Resolves target ∧ other = target.map id plainType

theorem targets_plain (unambiguous : Unambiguous document) (free : BuiltinsFree document)
    (isRoot : Bool) (field : Field) :
    Option.Rel (PlainAlike ⟨settings, document⟩)
      (resolvedField ⟨settings, document⟩ isRoot field).target?
      (resolvedField ⟨settings, plain document⟩ isRoot (plainField field)).target? := by
  refine optionRel_of_some (fun target leads => ?_) (fun other leads => ?_)
  · refine ⟨target.map id plainType, ?_, resolves_of_field leads, rfl⟩
    obtain ⟨stored, named, defines, projectable⟩ := (target_eq_some_iff_named unambiguous free).mp leads
    have storedPlain : typeAt? (plain document) target.1 = some (plainType target.2) := by
      rw [plain, typeAt_mapTypes, stored, Option.map_some]
    exact (target_eq_some_iff_named unambiguous.plain free.plain).mpr ⟨storedPlain, named, defines, projectable⟩
  · obtain ⟨storedPlain, named, defines, projectable⟩ :=
      (target_eq_some_iff_named unambiguous.plain free.plain).mp leads
    rw [plain, typeAt_mapTypes] at storedPlain
    obtain ⟨definition, stored, changed⟩ := Option.map_eq_some_iff.mp storedPlain
    rw [← changed] at named defines projectable
    have back : (resolvedField ⟨settings, document⟩ isRoot field).target? = some (other.1, definition) :=
      (target_eq_some_iff_named unambiguous free).mpr ⟨stored, named, defines, projectable⟩
    rw [back, Option.isSome_some]

/-- Fields match their plain forms, if these lead to the same types. -/
theorem fieldsMatch_plain (unambiguous : Unambiguous document) (free : BuiltinsFree document)
    (isRoot : Bool) (position : Nat) (definition : TypeDefinition) :
    List.Forall₂ (FieldsMatch (PlainAlike ⟨settings, document⟩))
      (resolvedFields ⟨settings, document⟩ isRoot position definition)
      (resolvedFields ⟨settings, plain document⟩ isRoot position (plainType definition)) := by
  simp only [resolvedFields, survivingFields_plain, List.map_map, List.forall₂_map_left_iff,
    List.forall₂_map_right_iff, List.forall₂_same]
  intro field _
  exact ⟨rfl, rfl, targets_plain unambiguous free isRoot field⟩

theorem corresponds_plain (unambiguous : Unambiguous document) (free : BuiltinsFree document) :
    Corresponds ⟨settings, document⟩ ⟨settings, plain document⟩ (PlainAlike ⟨settings, document⟩) where
  package := rfl
  name := by
    rintro target _ ⟨_, rfl⟩
    rfl
  description := by
    rintro target _ ⟨_, rfl⟩
    rfl
  fields := by
    rintro target _ ⟨_, rfl⟩
    exact fieldsMatch_plain unambiguous free false target.1 target.2

theorem roots_plain (unambiguous : Unambiguous document) (free : BuiltinsFree document) :
    Option.Rel (RootsMatch ⟨settings, document⟩ ⟨settings, plain document⟩
        (PlainAlike ⟨settings, document⟩))
      (findRoot? document .query) (findRoot? (plain document) .query) := by
  rw [plain, findRoot_mapTypes keepsHeads_plainType]
  cases findRoot? document .query with
  | none => exact .none
  | some root => exact .some ⟨rfl, rfl, fieldsMatch_plain unambiguous free true root.1 root.2⟩

end SelectionGen.Projection.Context

namespace SelectionGen.Generation

open Sdl Schema Projection Library

/-- **Wrappers, arguments and foreign directives do not matter.** Let each type be defined at most once, let no
extension of a scalar have the name of a type that is defined as something else, and let nothing else be
defined under the name of a scalar that needs no definition. Then a run gives the same result, or the
same clash, when every field keeps nothing but its name, its description, the name of its type and the
directives that leave it out, under all settings and filters and however the two documents are loaded. -/
theorem outcome_of_plain {document : Document} (unambiguous : Unambiguous document)
    (free : BuiltinsFree document) (settings : Settings) (filters : List TypeFilter)
    {load loadPlain : Unit → Loading} (loaded : (load ()).outcome = .ok document)
    (loadedPlain : (loadPlain ()).outcome = .ok (plain document)) :
    (run settings filters load).outcome = (run settings filters loadPlain).outcome := by
  have clear := unambiguous.applyAll filters
  have alsoFree := free.applyAll filters
  rw [run_of_loaded loaded, run_of_loaded loadedPlain, applyAll_plain]
  exact Context.outcome_eq_of_corresponds (Context.corresponds_plain clear alsoFree) rfl rfl
    (Context.roots_plain clear alsoFree)

/-- The library's lists and the argument of a field are not needed. -/
theorem library_plain :
    Unambiguous (books ++ people) ∧ BuiltinsFree (books ++ people) ∧
    plain (books ++ people) ≠ books ++ people ∧
    (ofSettings { schemas := [booksText, peopleText] } [] {} []).outcome
      = (ofGivenDocument { schemas := [booksText, peopleText] } [] (plain (books ++ people))).outcome := by
  have free : BuiltinsFree (books ++ people) := by
    have others : ∀ entry ∈ books ++ people, ∀ definition, entry.type? = some definition →
        isBuiltinScalar definition.name.text = false := by decide
    exact fun definition member _ _ => others _ member definition rfl
  refine ⟨unambiguous, free, by decide, ?_⟩
  exact outcome_of_plain unambiguous free _ [] (load_texts read_booksText read_peopleText) rfl

end SelectionGen.Generation
