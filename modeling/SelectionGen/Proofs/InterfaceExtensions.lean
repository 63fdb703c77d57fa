import SelectionGen.Proofs.AccessorNames
import SelectionGen.Proofs.DefinitionOrder
import SelectionGen.Proofs.Pruning

/-! Fields that extensions add. What extensions add to an object is merged with its own fields, so a field whose
name is new there gets an accessor. Classes are generated for interfaces too, and these can be extended as
well, but merging goes through extensions of objects alone: a new field that `extend interface` adds is
lost. -/
namespace SelectionGen.Schema

open Sdl Projection

/-- The fields that an entry adds to a definition of its own kind and name. -/
def addedFields (definition : TypeDefinition) (entry : Definition) : List Field :=
  match entry.type? with
  | some found =>
    if found.kind = definition.kind ∧ found.isExtension = true ∧ found.name = definition.name then found.fields
    else []
  | none => []

/-- The fields that all extensions of a definition add, in the order of the document. -/
def allAdded (document : Document) (definition : TypeDefinition) : List Field :=
  document.flatMap (addedFields definition)

/-- An extension of the definition adds the field, and its name is neither that of a field of the definition nor
that of a field added before. -/
def AddsFresh (document : Document) (definition : TypeDefinition) (field : Field) : Prop :=
  ∃ before behind, allAdded document definition = before ++ field :: behind ∧
    ∀ other ∈ definition.fields ++ before, other.name ≠ field.name

/-- The field is merged with those of the type. Unless it is left out it has an accessor in the class of the
type, and so it has in every result that has the class. -/
structure Joins (document : Document) (target : Target) (field : Field) : Prop where
  merged : field ∈ mergedFields document target.1 target.2
  accessor : ∀ settings, keepsField settings target.typeName field = true →
    ∃ accessor ∈ (Context.projection ⟨settings, document⟩ target).accessors,
      accessor.fieldName = field.name.text
  generated : ∀ settings api, keepsField settings target.typeName field = true →
    (Generation.ofGivenDocument settings [] document).outcome = .ok api →
    ∀ projection ∈ api.clientProjections, projection.sourceType = target.typeName →
      ∃ accessor ∈ projection.accessors, accessor.fieldName = field.name.text

/-- What counts as the definition of a name: the first entry that defines a type of it. -/
def Defines (document : Document) (target : Target) : Prop :=
  IsFirst document (fun other => other.isExtension = false ∧ other.name = target.2.name) target

variable {document : Document} {definition extension : TypeDefinition} {target : Target} {field : Field}

theorem mem_allAdded :
    field ∈ allAdded document definition ↔
      ∃ extension, .type extension ∈ document ∧ extension.kind = definition.kind ∧
        extension.isExtension = true ∧ extension.name = definition.name ∧ field ∈ extension.fields := by
  rw [allAdded, List.mem_flatMap]
  constructor
  · rintro ⟨entry, member, added⟩
    cases entry with
    | schema | directive | operation | fragment => cases added
    | type extension =>
      simp only [addedFields, Definition.type?] at added
      split at added
      · next fits => exact ⟨extension, member, fits.1, fits.2.1, fits.2.2, added⟩
      · cases added
  · rintro ⟨extension, member, kind, isExtension, named, added⟩
    refine ⟨_, member, ?_⟩
    simp only [addedFields, Definition.type?]
    rwa [if_pos ⟨kind, isExtension, named⟩]

/-- What extensions add to an object is what is merged with its fields. -/
theorem allAdded_of_object (isObject : definition.kind = .object) :
    allAdded document definition = extendedFields document definition.name := by
  have same : addedFields definition = extensionFields definition.name := by
    funext entry
    cases entry with
    | schema | directive | operation | fragment => rfl
    | type found => simp only [addedFields, extensionFields, Definition.type?, isObject]
  rw [allAdded, extendedFields, same]

/-- A field whose name does not occur before is not left out. -/
theorem mem_firstOccurrences {seen : List Name} {before behind : List Field} (unseen : field.name ∉ seen)
    (fresh : ∀ other ∈ before, other.name ≠ field.name) :
    field ∈ firstOccurrences seen (before ++ field :: behind) := by
  induction before generalizing seen with
  | nil =>
    rw [List.nil_append, firstOccurrences, if_neg unseen]
    exact List.mem_cons_self
  | cons other rest ih =>
    have freshRest : ∀ later ∈ rest, later.name ≠ field.name :=
      fun later member => fresh later (List.mem_cons_of_mem _ member)
    rw [List.cons_append, firstOccurrences]
    split
    · exact ih unseen freshRest
    · refine List.mem_cons_of_mem _ (ih ?_ freshRest)
      intro seenNow
      rcases List.mem_cons.mp seenNow with same | before
      · exact fresh other List.mem_cons_self same.symm
      · exact unseen before

/-- A name that extensions add and the definition does not have is added for the first time somewhere. -/
theorem exists_addsFresh (added : field ∈ allAdded document definition)
    (unowned : ∀ own ∈ definition.fields, own.name ≠ field.name) :
    ∃ first, first.name = field.name ∧ AddsFresh document definition first := by
  have present : ((allAdded document definition).find? fun other => decide (other.name = field.name)).isSome :=
    List.find?_isSome.mpr ⟨field, added, decide_eq_true rfl⟩
  obtain ⟨first, found⟩ := Option.isSome_iff_exists.mp present
  obtain ⟨same, before, behind, split, missed⟩ := List.find?_eq_some_iff_append.mp found
  have named : first.name = field.name := of_decide_eq_true same
  refine ⟨first, named, before, behind, split, fun other member taken => ?_⟩
  rw [named] at taken
  rcases List.mem_append.mp member with own | earlier
  · exact unowned other own taken
  · have differs := missed other earlier
    rw [decide_eq_true taken] at differs
    cases differs

end SelectionGen.Schema

namespace SelectionGen.Projection.Context

open Sdl Schema

variable {settings : Settings} {document : Document} {target : Target} {field : Field}

/-- References by the name of an object or interface lead to its definition. -/
theorem resolves_of_defines (defines : Defines document target) (projectable : target.2.isProjectable = true) :
    Resolves ⟨settings, document⟩ target := by
  refine ⟨findType_eq_some_iff.mpr (defines.narrow ?_ ?_), projectable⟩
  · intro other wants
    refine ⟨?_, wants.1⟩
    have admitted := wants.2
    cases kind : other.kind <;> simp_all [plainScope, LookupScope.admits]
  · refine ⟨rfl, ?_⟩
    have isDefinition := defines.fits.1
    cases kind : target.2.kind <;> simp_all [plainScope, LookupScope.admits, TypeDefinition.isProjectable]

/-- The class that a result has for a type is its projection. -/
theorem projection_of_outcome (resolves : Resolves ⟨settings, document⟩ target) {api : Api}
    (done : (Generation.ofGivenDocument settings [] document).outcome = .ok api)
    {projection : SelectionGen.Projection} (member : projection ∈ api.clientProjections)
    (source : projection.sourceType = target.typeName) :
    projection = Context.projection ⟨settings, document⟩ target := by
  rcases Generation.descent_of_outcome done with rfl | ⟨position, definition, given, final, _, descent, rfl⟩
  · cases member
  · obtain ⟨other, inGiven, rfl⟩ := List.mem_map.mp member
    have otherResolves := (descent.given_reached other inGiven).resolves fun _ => resolves_of_mem_rootTargets
    rw [otherResolves.ext resolves source]

/-- A merged field that is not left out has an accessor. -/
theorem accessor_of_merged (merged : field ∈ mergedFields document target.1 target.2)
    (kept : keepsField settings target.typeName field = true) :
    ∃ accessor ∈ (Context.projection ⟨settings, document⟩ target).accessors,
      accessor.fieldName = field.name.text := by
  have survives : field ∈ survivingFields settings document target.1 target.2 := by
    rw [survivingFields, filteredFields_eq_filter]
    exact List.mem_filter.mpr ⟨merged, kept⟩
  have listed : field.name.text
      ∈ (Context.projection ⟨settings, document⟩ target).accessors.map Accessor.fieldName := by
    rw [projection, projectionOf, accessors_fieldNames, resolvedFields, List.map_map]
    exact List.mem_map_of_mem (f := fun field : Field => field.name.text) survives
  exact List.mem_map.mp listed

/-- For a field to join a type it has to be merged, and nothing more. -/
theorem joins_of_merged (defines : Defines document target) (projectable : target.2.isProjectable = true)
    (merged : field ∈ mergedFields document target.1 target.2) : Joins document target field where
  merged := merged
  accessor := fun _ kept => accessor_of_merged merged kept
  generated := by
    intro settings api kept done projection member source
    rw [projection_of_outcome (resolves_of_defines defines projectable) done member source]
    exact accessor_of_merged merged kept

end SelectionGen.Projection.Context

namespace SelectionGen.Schema

open Sdl Projection

variable {document : Document} {target : Target}

theorem mergedFields_of_defines (defines : Defines document target) :
    mergedFields document target.1 target.2
      = firstOccurrences [] (target.2.fields ++ extendedFields document target.2.name) :=
  congrArg (firstOccurrences []) (candidateFields_of_definition defines.stored defines.fits.1)

/-- **What extensions add.** Every field with a new name that an extension adds to an object joins its type. What
the extensions of an interface add does not, unless an extension of an object has the name of the
interface as well: fields with new names all join only where there are none, as each field that is added
has the name of one of the interface's own. -/
theorem added_joins (defines : Defines document target) (projectable : target.2.isProjectable = true) :
    (target.2.kind = .object → ∀ field, AddsFresh document target.2 field → Joins document target field) ∧
    (target.2.kind = .interface → extendedFields document target.2.name = [] →
      ((∀ field, AddsFresh document target.2 field → Joins document target field) ↔
        ∀ extension, .type extension ∈ document → extension.kind = .interface →
          extension.isExtension = true → extension.name = target.2.name →
          ∀ field ∈ extension.fields, ∃ own ∈ target.2.fields, own.name = field.name)) := by
  constructor
  · rintro isObject field ⟨before, behind, split, fresh⟩
    apply Context.joins_of_merged defines projectable
    rw [mergedFields_of_defines defines, ← allAdded_of_object isObject, split, ← List.append_assoc]
    exact mem_firstOccurrences List.not_mem_nil fresh
  · intro isInterface unextended
    constructor
    · intro joining extension member kind isExtension named field inExtension
      have added : field ∈ allAdded document target.2 :=
        mem_allAdded.mpr ⟨extension, member, kind.trans isInterface.symm, isExtension, named, inExtension⟩
      by_contra unowned
      push Not at unowned
      obtain ⟨first, same, fresh⟩ := exists_addsFresh added unowned
      have merged := (joining first fresh).merged
      rw [mergedFields_of_defines defines, unextended, List.append_nil] at merged
      exact unowned first ((firstOccurrences_sublist _ _).mem merged) same
    · rintro owned field ⟨before, behind, split, fresh⟩
      have added : field ∈ allAdded document target.2 := by
        rw [split]
        exact List.mem_append_right _ List.mem_cons_self
      obtain ⟨extension, member, kind, isExtension, named, inExtension⟩ := mem_allAdded.mp added
      obtain ⟨own, inOwn, same⟩ :=
        owned extension member (kind.trans isInterface) isExtension named field inExtension
      exact absurd same (fresh own (List.mem_append_left _ inOwn))

end SelectionGen.Schema

/-! An interface whose extension adds a field. -/
namespace SelectionGen.Projection.Nodes

open Sdl Schema

def text : String := "type Query { node: Node } interface Node { id: ID } extend interface Node { name: String }"

theorem isName_id : Sdl.isName "ID".toList = true := by decide

theorem isName_string : Sdl.isName "String".toList = true := by decide

def node : Target where
  fst := 1
  snd.kind := .interface
  snd.name := ⟨"Node", by decide +kernel⟩
  snd.fields := [{ name := ⟨"id", by decide +kernel⟩, type := ⟨[], ⟨"ID", isName_id⟩⟩ }]

def query : TypeDefinition where
  kind := .object
  name := customaryQuery
  fields := [{ name := ⟨"node", by decide +kernel⟩, type := ⟨[], node.name⟩ }]

def nameField : Field where
  name := ⟨"name", by decide +kernel⟩
  type := ⟨[], ⟨"String", isName_string⟩⟩

def extension : TypeDefinition where
  kind := .interface
  isExtension := true
  name := node.name
  fields := [nameField]

def schema : Document := [.type query, .type node.2, .type extension]

theorem defines : Defines schema node where
  stored := rfl
  fits := ⟨rfl, rfl⟩
  first := by
    intro position before other stored fits
    obtain rfl : position = 0 := Nat.lt_one_iff.mp before
    obtain rfl : query = other := Option.some.inj stored
    exact absurd fits.2 (by decide)

theorem addsFresh : AddsFresh schema node.2 nameField := by
  refine ⟨[], [], rfl, ?_⟩
  decide

end SelectionGen.Projection.Nodes

namespace SelectionGen.Schema

open Sdl Projection Library

/-- The root of the library gets what its extension adds, and the interface does not. -/
theorem authors_join :
    (∀ field ∈ authorsEntry.fields, Joins (books ++ people) (0, query) field) ∧
    ¬ ∀ field, AddsFresh Nodes.schema Nodes.node.2 field → Joins Nodes.schema Nodes.node field := by
  have defines : Defines (books ++ people) (0, query) := by
    refine ⟨rfl, ⟨rfl, rfl⟩, fun position before => ?_⟩
    exact absurd before (Nat.not_lt_zero position)
  constructor
  · intro field member
    refine (added_joins defines rfl).1 rfl field ⟨[], [], ?_, ?_⟩
    · obtain rfl := List.mem_singleton.mp member
      rfl
    · obtain rfl := List.mem_singleton.mp member
      decide
  · rw [(added_joins Nodes.defines rfl).2 rfl rfl]
    intro owned
    have stored : .type Nodes.extension ∈ Nodes.schema := by simp [Nodes.schema]
    obtain ⟨own, member, same⟩ := owned Nodes.extension stored rfl rfl rfl Nodes.nameField List.mem_cons_self
    obtain rfl := List.mem_singleton.mp member
    exact absurd same (by decide)

/-- The field that the extension adds is new, but neither merged nor to be selected. -/
theorem name_is_lost :
    Document.read Nodes.text = .ok Nodes.schema ∧ Defines Nodes.schema Nodes.node ∧
    Nodes.node.2.isProjectable = true ∧ AddsFresh Nodes.schema Nodes.node.2 Nodes.nameField ∧
    mergedFields Nodes.schema 1 Nodes.node.2 = Nodes.node.2.fields ∧
    ¬ Joins Nodes.schema Nodes.node Nodes.nameField := by
  have merged : mergedFields Nodes.schema 1 Nodes.node.2 = Nodes.node.2.fields := by decide
  refine ⟨by decide +kernel, Nodes.defines, rfl, Nodes.addsFresh, merged, fun joins => ?_⟩
  have member := joins.merged
  rw [show Nodes.node.1 = 1 from rfl, merged] at member
  revert member
  decide

end SelectionGen.Schema
