import SelectionGen.Proofs.Correspondence
import SelectionGen.Proofs.Merging
import SelectionGen.Proofs.Reachability
import SelectionGen.Proofs.Runs

/-! Policies on fields, and schemas without the fields that they leave out. Merging drops repeated names
before the policies drop fields, so a field that is left out could hide another of its name. Where the
fields of each type have different names there is nothing to hide, and leaving fields out of what is
generated is the same as leaving them out of the schema. -/
namespace SelectionGen.Schema

open Sdl

/-- Whether a field of a type survives both policies. -/
def keepsField (settings : Settings) (owner : String) (field : Field) : Bool :=
  (settings.allowed? owner).all (fun allowed => allowed.contains field.name.text) && !isSkipped field

/-- Whether the fields of a type can get accessors: those of input objects and of extensions of interfaces
never do. -/
def bearsAccessors (definition : TypeDefinition) : Bool :=
  definition.kind == .object || (definition.kind == .interface && !definition.isExtension)

/-- A type without the fields that are left out. -/
def pruneType (settings : Settings) (definition : TypeDefinition) : TypeDefinition :=
  { definition with
    fields :=
      if bearsAccessors definition then
        definition.fields.filter (keepsField settings definition.name.text)
      else definition.fields }

def pruneEntry (settings : Settings) : Definition → Definition
  | .type definition => .type (pruneType settings definition)
  | other => other

/-- A schema without the fields that the settings and the directives leave out. -/
def prune (settings : Settings) (document : Document) : Document := document.map (pruneEntry settings)

/-- A type in a pruned schema, at the place where it stood before. -/
def pruneFound (settings : Settings) (found : Nat × TypeDefinition) : Nat × TypeDefinition :=
  (found.1, pruneType settings found.2)

/-- A document in which the fields that are merged for a type all have different names. -/
structure DistinctFields (document : Document) : Prop where
  definitions : ∀ definition, .type definition ∈ document → definition.isExtension = false →
    ((definition.fields ++ extendedFields document definition.name).map Field.name).Nodup
  extensions : ∀ name, ((extendedFields document name).map Field.name).Nodup

variable {settings : Settings} {document : Document} {definition : TypeDefinition} {position : Nat}
  {name : Name}

theorem filteredFields_eq_filter (owner : String) (fields : List Field) :
    filteredFields settings owner fields = fields.filter (keepsField settings owner) := by
  rw [filteredFields, withoutSkipped, includedFields]
  cases entry : settings.allowed? owner with
  | none =>
    refine List.filter_congr fun field _ => ?_
    rw [keepsField, entry, Option.all_none, Bool.true_and]
  | some allowed =>
    dsimp only
    rw [List.filter_filter]
    refine List.filter_congr fun field _ => ?_
    rw [keepsField, entry, Option.all_some, Bool.and_comm]

/-- Settings without entries keep what any settings keep. -/
theorem filteredFields_of_kept (owner : String) (fields : List Field) :
    filteredFields { settings with includeFields := [] } owner
        (fields.filter (keepsField settings owner))
      = fields.filter (keepsField settings owner) := by
  rw [filteredFields_eq_filter, List.filter_eq_self]
  intro field kept
  have survives := (List.mem_filter.mp kept).2
  rw [keepsField, Bool.and_eq_true] at survives ⊢
  exact ⟨rfl, survives.2⟩

theorem pruneType_fields (bears : bearsAccessors definition = true) :
    (pruneType settings definition).fields
      = definition.fields.filter (keepsField settings definition.name.text) :=
  if_pos bears

theorem prune_eq_mapTypes (document : Document) :
    prune settings document = mapTypes (pruneType settings) document := by
  refine List.map_congr_left fun entry _ => ?_
  cases entry <;> rfl

theorem keepsHeads_pruneType : KeepsHeads (pruneType settings) := ⟨fun _ => rfl, fun _ => rfl, fun _ => rfl⟩

theorem typeAt_prune :
    typeAt? (prune settings document) position
      = (typeAt? document position).map (pruneType settings) := by
  rw [prune_eq_mapTypes, typeAt_mapTypes]

/-- A want that fields have no part in finds the same entry when fields are taken away. -/
theorem IsFirst.pruned {wanted : TypeDefinition → Prop} {found : Nat × TypeDefinition}
    (wants : ∀ definition, wanted (pruneType settings definition) ↔ wanted definition)
    (isFirst : IsFirst document wanted found) :
    IsFirst (prune settings document) wanted (pruneFound settings found) := by
  rw [prune_eq_mapTypes]
  exact isFirst.mapTypes wants

theorem findType_prune (scope : LookupScope) :
    findType? (prune settings document) name scope
      = (findType? document name scope).map (pruneFound settings) := by
  rw [prune_eq_mapTypes]
  exact findType_mapTypes keepsHeads_pruneType name scope

theorem findRoot_prune (operation : Operation) :
    findRoot? (prune settings document) operation
      = (findRoot? document operation).map (pruneFound settings) := by
  rw [prune_eq_mapTypes]
  exact findRoot_mapTypes keepsHeads_pruneType operation

theorem extendedFields_prune :
    extendedFields (prune settings document) name
      = (extendedFields document name).filter (keepsField settings name.text) := by
  have entries : ∀ entry, extensionFields name (mapEntry (pruneType settings) entry)
      = (extensionFields name entry).filter (keepsField settings name.text) := by
    refine extensionFields_mapEntry keepsHeads_pruneType rfl fun definition fits => ?_
    have bears : bearsAccessors definition = true := by simp [bearsAccessors, fits.1]
    rw [pruneType_fields bears, fits.2.1]
  rw [prune_eq_mapTypes, extendedFields, extendedFields, mapTypes, List.flatMap_map, List.filter_flatMap]
  simp only [entries]

theorem DistinctFields.of_object {isExtension : Bool} {found : Nat × TypeDefinition}
    (distinct : DistinctFields document)
    (isFirst : IsFirst document (ObjectNamed name isExtension) found) :
    ((candidateFields document found.1 found.2).map Field.name).Nodup := by
  rw [candidateFields_of_object isFirst]
  cases isExtension with
  | true => exact distinct.extensions name
  | false =>
    have own := distinct.definitions found.2 isFirst.member isFirst.fits.2.2
    rwa [isFirst.fits.2.1] at own

/-- The fields of a definition, merged in a pruned schema. -/
theorem candidateFields_prune_definition (stored : typeAt? document position = some definition)
    (defines : definition.isExtension = false) (bears : bearsAccessors definition = true) :
    candidateFields (prune settings document) position (pruneType settings definition)
      = (candidateFields document position definition).filter
          (keepsField settings definition.name.text) := by
  have storedPruned : typeAt? (prune settings document) position
      = some (pruneType settings definition) := by rw [typeAt_prune, stored, Option.map_some]
  rw [candidateFields_of_definition stored defines,
    candidateFields_of_definition storedPruned defines, pruneType_fields bears, List.filter_append,
    ← extendedFields_prune]
  rfl

/-- The fields of an object, defined or only extended, merged in a pruned schema. -/
theorem candidateFields_prune_object {isExtension : Bool} {found : Nat × TypeDefinition}
    (isFirst : IsFirst document (ObjectNamed name isExtension) found) :
    candidateFields (prune settings document) found.1 (pruneType settings found.2)
      = (candidateFields document found.1 found.2).filter (keepsField settings name.text) := by
  have isFirstPruned : IsFirst (prune settings document) (ObjectNamed name isExtension)
      (pruneFound settings found) := isFirst.pruned fun _ => Iff.rfl
  have bears : bearsAccessors found.2 = true := by simp [bearsAccessors, isFirst.fits.1]
  have fields := candidateFields_of_object isFirstPruned
  simp only [pruneFound] at fields
  rw [fields, candidateFields_of_object isFirst, List.filter_append, extendedFields_prune,
    pruneType_fields bears, isFirst.fits.2.1]
  cases isExtension <;> rfl

/-- A surviving field is declared where the type is defined or extended, and the policies keep it. -/
theorem declared_of_survives {field : Field} (stored : typeAt? document position = some definition)
    (survives : field ∈ survivingFields settings document position definition) :
    ∃ source, .type source ∈ document ∧ source.name = definition.name ∧ field ∈ source.fields ∧
      keepsField settings definition.name.text field = true := by
  rw [survivingFields, filteredFields_eq_filter] at survives
  obtain ⟨merged, kept⟩ := List.mem_filter.mp survives
  rcases List.mem_append.mp ((firstOccurrences_sublist _ _).mem merged) with own | added
  · exact ⟨definition, List.mem_of_getElem? (typeAt_eq_some_iff.mp stored), rfl, own, kept⟩
  · obtain ⟨entry, inRest, given⟩ := List.mem_flatMap.mp added
    have inDocument := List.mem_of_mem_eraseIdx inRest
    cases entry with
    | schema | directive | operation | fragment => cases given
    | type source =>
      by_cases fits : ObjectNamed definition.name true source
      · rw [extensionFields_eq_fields fits] at given
        exact ⟨source, inDocument, fits.2.1, given, kept⟩
      · rw [extensionFields_eq_nil fits] at given
        cases given

/-- What survives of a type with distinct fields is what a pruned schema has of them. -/
theorem survivingFields_prune
    (distinct : ((candidateFields document position definition).map Field.name).Nodup)
    (pruned : candidateFields (prune settings document) position (pruneType settings definition)
      = (candidateFields document position definition).filter
          (keepsField settings definition.name.text)) :
    survivingFields settings document position definition
      = survivingFields { settings with includeFields := [] } (prune settings document) position
          (pruneType settings definition) := by
  have distinctKept : (((candidateFields document position definition).filter
      (keepsField settings definition.name.text)).map Field.name).Nodup :=
    distinct.sublist (List.filter_sublist.map _)
  rw [survivingFields, survivingFields, mergedFields, mergedFields, pruned,
    firstOccurrences_of_nodup distinct (by simp), firstOccurrences_of_nodup distinctKept (by simp),
    filteredFields_eq_filter]
  exact (filteredFields_of_kept _ _).symm

end SelectionGen.Schema

namespace SelectionGen.Projection

open Sdl Schema

namespace Context

/-- The same run with the policies carried out on the schema, so that no settings and no directives are left
to take fields away. -/
def pruned (context : Context) : Context where
  settings := { context.settings with includeFields := [] }
  document := prune context.settings context.document

variable {context : Context} {target : Target}

/-- A field leads to the same type in a pruned schema, or to none in both. -/
theorem target_pruned (isRoot : Bool) (field : Field) :
    (context.pruned.resolvedField isRoot field).target?
      = (context.resolvedField isRoot field).target?.map (pruneFound context.settings) := by
  simp only [ResolvedField.target?, resolvedField, resolve?, pruned, findType_prune]
  split
  · rfl
  · cases findType? context.document field.type.named (fieldScope isRoot field) with
    | none => rfl
    | some found =>
      have same : (pruneType context.settings found.2).isProjectable = found.2.isProjectable := rfl
      simp only [Option.map_some, Option.bind_some, Resolution.projectable?, pruneFound, same]
      split <;> rfl

/-- A type that fields lead to, as it is and as it stands in the pruned schema. -/
def PrunedAlike (context : Context) (target other : Target) : Prop :=
  context.Resolves target ∧ other = pruneFound context.settings target

theorem targets_pruned (isRoot : Bool) (field : Field) :
    Option.Rel context.PrunedAlike (context.resolvedField isRoot field).target?
      (context.pruned.resolvedField isRoot field).target? := by
  rw [target_pruned]
  cases leads : (context.resolvedField isRoot field).target? with
  | none => exact .none
  | some target => exact .some ⟨resolves_of_field leads, rfl⟩

theorem Resolves.bearsAccessors (resolves : context.Resolves target) :
    bearsAccessors target.2 = true := by
  have projectable := resolves.2
  have defines := resolves.isDefinition
  simp_all [TypeDefinition.isProjectable, Schema.bearsAccessors]

/-- Pruning a schema whose types have distinct fields changes nothing that is generated below its root. -/
theorem corresponds_pruned (context : Context) (distinct : DistinctFields context.document) :
    Corresponds context context.pruned context.PrunedAlike where
  package := rfl
  name := by
    rintro target _ ⟨_, rfl⟩
    rfl
  description := by
    rintro target _ ⟨_, rfl⟩
    rfl
  fields := by
    rintro target _ ⟨resolves, rfl⟩
    refine fieldsMatch_of_surviving (survivingFields_prune ?_ ?_) (targets_pruned false)
    · rw [candidateFields_of_definition resolves.typeAt resolves.isDefinition]
      exact distinct.definitions _ (findType_eq_some_iff.mp resolves.1).member resolves.isDefinition
    · exact candidateFields_prune_definition resolves.typeAt resolves.isDefinition
        resolves.bearsAccessors

/-- The roots of a schema and of the pruned one ask for the same entry point. -/
theorem roots_pruned (context : Context) (distinct : DistinctFields context.document)
    (operation : Operation) :
    Option.Rel (RootsMatch context context.pruned context.PrunedAlike)
      (findRoot? context.document operation) (findRoot? context.pruned.document operation) := by
  have roots : findRoot? context.pruned.document operation
      = (findRoot? context.document operation).map (pruneFound context.settings) :=
    findRoot_prune operation
  rw [roots]
  cases found : findRoot? context.document operation with
  | none => exact .none
  | some root =>
    obtain ⟨isExtension, isFirst⟩ := isFirst_of_findRoot found
    refine .some ⟨rfl, rfl, fieldsMatch_of_surviving (survivingFields_prune ?_ ?_) (targets_pruned true)⟩
    · exact distinct.of_object isFirst
    · have named := isFirst.fits.2.1
      rw [named]
      exact candidateFields_prune_object isFirst

/-- An accessor stands for a field that the policies keep, declared for the type that the class is for. -/
def StandsForKept (context : Context) (projection : SelectionGen.Projection) (accessor : Accessor) :
    Prop :=
  ∃ source field, .type source ∈ context.document ∧ source.name.text = projection.sourceType ∧
    field ∈ source.fields ∧ keepsField context.settings projection.sourceType field = true ∧
    accessor.fieldName = field.name.text

variable {accessor : Accessor} {position : Nat} {definition : TypeDefinition}

private theorem standsForKept_of_resolved {isRoot : Bool} {resolved : ResolvedField}
    {projection : SelectionGen.Projection}
    (stored : typeAt? context.document position = some definition)
    (source : projection.sourceType = definition.name.text)
    (member : resolved ∈ context.resolvedFields isRoot position definition)
    (same : accessor.meaning = context.fieldMeaning resolved) :
    context.StandsForKept projection accessor := by
  obtain ⟨field, survives, rfl⟩ := List.mem_map.mp member
  obtain ⟨declaring, inDocument, named, declares, kept⟩ := declared_of_survives stored survives
  rw [StandsForKept, source]
  exact ⟨declaring, field, inDocument, congrArg Name.text named, declares, kept,
    congrArg Prod.fst same⟩

theorem projectionOf_standsForKept {name : String}
    (stored : typeAt? context.document position = some definition)
    (member : accessor ∈ (context.projectionOf name position definition).accessors) :
    context.StandsForKept (context.projectionOf name position definition) accessor := by
  obtain ⟨resolved, inFields, same⟩ := field_of_accessor member
  exact standsForKept_of_resolved stored rfl inFields same

theorem rootProjectionOf_standsForKept
    (stored : typeAt? context.document position = some definition)
    (member : accessor ∈ (context.rootProjectionOf position definition).accessors) :
    context.StandsForKept (context.rootProjectionOf position definition) accessor := by
  obtain ⟨resolved, inFields, same⟩ := field_of_accessor member
  exact standsForKept_of_resolved stored rfl (List.mem_of_mem_filter inFields) same

end Context

end SelectionGen.Projection

namespace SelectionGen.Generation

open Sdl Schema Projection

/-- **Policies on fields are a schema without those fields.** Where the fields that are merged for a type have
different names, a run gives what a run without entries gives on the schema from which the policies
took their fields: the same classes in the same order, or the same clash. Whatever it gives out
belongs to a type that the fields left in that schema lead to from its root, and each accessor stands
for a field that is kept. -/
theorem outcome_of_pruned {document : Document} (distinct : DistinctFields document)
    (settings : Settings) :
    (ofGivenDocument settings [] document).outcome
      = (ofGivenDocument { settings with includeFields := [] } [] (prune settings document)).outcome ∧
    ∀ api, (ofGivenDocument settings [] document).outcome = .ok api →
      (∀ projection ∈ api.clientProjections, ∃ position definition target,
        findRoot? (prune settings document) .query = some (position, definition) ∧
        (Context.pruned ⟨settings, document⟩).Reached
          ((Context.pruned ⟨settings, document⟩).rootTargets position definition) target ∧
        projection = (Context.pruned ⟨settings, document⟩).projection target) ∧
      ∀ projection ∈ api.queryTypes ++ api.clientProjections, ∀ accessor ∈ projection.accessors,
        Context.StandsForKept ⟨settings, document⟩ projection accessor := by
  have same : (ofGivenDocument settings [] document).outcome
      = (ofGivenDocument { settings with includeFields := [] } [] (prune settings document)).outcome :=
    Context.outcome_eq_of_corresponds (Context.corresponds_pruned ⟨settings, document⟩ distinct) rfl rfl
      (Context.roots_pruned ⟨settings, document⟩ distinct .query)
  refine ⟨same, fun api done => ⟨?_, ?_⟩⟩
  · intro projection member
    rw [same] at done
    rcases descent_of_outcome done with rfl | ⟨position, definition, given, final, root, descent, rfl⟩
    · cases member
    · obtain ⟨target, inGiven, rfl⟩ := List.mem_map.mp member
      exact ⟨position, definition, target, root, descent.given_reached target inGiven, rfl⟩
  · intro projection member accessor inAccessors
    rcases descent_of_outcome done with rfl | ⟨position, definition, given, final, root, descent, rfl⟩
    · cases member
    · obtain ⟨isExtension, isFirst⟩ := isFirst_of_findRoot root
      rcases List.mem_append.mp member with isRoot | isBelow
      · obtain rfl := List.mem_singleton.mp isRoot
        exact Context.rootProjectionOf_standsForKept isFirst.stored inAccessors
      · obtain ⟨target, inGiven, rfl⟩ := List.mem_map.mp isBelow
        have resolves := (descent.given_reached target inGiven).resolves
          fun _ => Context.resolves_of_mem_rootTargets
        exact Context.projectionOf_standsForKept resolves.typeAt inAccessors

end SelectionGen.Generation

/-! The library, where the settings want nothing of books but their authors. -/
namespace SelectionGen.Projection.Library

open Sdl Schema

def authorsOnly : Settings := { includeFields := [("Book", ["author"])] }

theorem distinctFields : DistinctFields schema := by
  have unextended : ∀ name, extendedFields schema name = [] := fun name => by
    simp [extendedFields, extensionFields, schema, Definition.type?, query, book, author]
  have own : ∀ entry ∈ schema, (entry.fields.map Field.name).Nodup := by decide
  refine ⟨fun definition member _ => ?_, fun name => ?_⟩
  · rw [unextended, List.append_nil]
    exact own _ member
  · rw [unextended]
    exact .nil

theorem outcome_schema : (Generation.ofGivenDocument {} [] schema).outcome
    = .ok { queryTypes := [context.rootProjectionOf 0 query]
            clientProjections := [context.projection author, context.projection book] } := by
  have root : findRoot? schema .query = some (0, query) := by decide
  rw [Generation.outcome_of_root rfl root]
  exact congrArg (Except.mapError GenerationError.clash) generated

end SelectionGen.Projection.Library

namespace SelectionGen.Generation

open Schema Projection Library

/-- The titles of books can be taken from the schema as well as from what is generated, and the class of
authors has no accessor for a field that is skipped. -/
theorem library_pruned :
    DistinctFields schema ∧ prune authorsOnly schema ≠ schema ∧
    (ofGivenDocument authorsOnly [] schema).outcome
      = (ofGivenDocument {} [] (prune authorsOnly schema)).outcome ∧
    ∀ accessor ∈ (context.projection author).accessors,
      context.StandsForKept (context.projection author) accessor := by
  refine ⟨distinctFields, by decide, (outcome_of_pruned distinctFields authorsOnly).1, ?_⟩
  have kept := ((outcome_of_pruned distinctFields {}).2 _ outcome_schema).2
  exact kept (context.projection author) (by simp)

end SelectionGen.Generation
