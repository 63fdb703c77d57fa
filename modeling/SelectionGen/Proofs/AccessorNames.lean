import Mathlib.Data.List.Nodup
import Mathlib.Data.List.Perm.Subperm
import SelectionGen.Proofs.Pruning
import SelectionGen.Proofs.Clashes
import SelectionGen.Target.NameUse

/-! Names in generated classes. Underscores behind the name of a field lead away from every name that is taken,
so the accessors of a class have different names, and none of them is a reserved word. A schema whose
names do not begin with two underscores gives names that mean the same inside a class and outside of
it, and none of those that classes give a meaning of their own. -/
namespace SelectionGen.Projection

variable {taken : List String} {name fieldName : String} {count other : Nat}

theorem padded_toList : (padded name count).toList = name.toList ++ List.replicate count '_' := by
  simp [padded]

theorem padded_inj (same : padded name count = padded name other) : count = other := by
  have lists := congrArg String.toList same
  rw [padded_toList, padded_toList] at lists
  have lengths := congrArg List.length (List.append_cancel_left lists)
  simpa using lengths

/-- One more candidate than there are names taken cannot all be taken. -/
theorem exists_free (taken : List String) (name : String) :
    ∃ count ∈ List.range (taken.length + 1), padded name count ∉ taken := by
  by_contra occupied
  have distinct : ((List.range (taken.length + 1)).map (padded name)).Nodup :=
    List.nodup_range.map fun _ _ => padded_inj
  have inside : (List.range (taken.length + 1)).map (padded name) ⊆ taken := by
    intro candidate member
    obtain ⟨count, inRange, rfl⟩ := List.mem_map.mp member
    by_contra free
    exact occupied ⟨count, inRange, free⟩
  have bound := (List.subperm_of_subset distinct inside).length_le
  rw [List.length_map, List.length_range] at bound
  omega

/-- The padding that is chosen frees the name. -/
theorem padded_freePadding (taken : List String) (name : String) :
    padded name (freePadding taken name) ∉ taken := by
  obtain ⟨count, inRange, free⟩ := exists_free taken name
  rw [freePadding]
  cases found : (List.range (taken.length + 1)).find? fun count => !taken.contains (padded name count) with
  | none => exact absurd free (by simpa using List.find?_eq_none.mp found count inRange)
  | some chosen => simpa using List.find?_some found

theorem accessorName_free (taken : List String) (fieldName : String) :
    accessorName taken fieldName ∉ taken :=
  padded_freePadding taken (sanitize fieldName)

/-- An accessor has the name of its field with underscores behind it. -/
theorem accessorName_toList (taken : List String) (fieldName : String) :
    ∃ count, (accessorName taken fieldName).toList = fieldName.toList ++ List.replicate count '_' ∧
      (fieldName ∈ reservedWords → count ≠ 0) := by
  rw [accessorName, padded_toList]
  by_cases held : fieldName ∈ reservedWords
  · refine ⟨freePadding taken (sanitize fieldName) + 1, ?_, fun _ => Nat.succ_ne_zero _⟩
    simp [sanitize, held, List.replicate_succ]
  · exact ⟨freePadding taken (sanitize fieldName), by simp [sanitize, held], fun reserved => absurd reserved held⟩

/-- A reserved name gets an underscore behind it, and no reserved word ends with one. -/
theorem accessorName_unreserved (taken : List String) (fieldName : String) :
    accessorName taken fieldName ∉ reservedWords := by
  have endings : ∀ word ∈ reservedWords, word.toList.getLast? ≠ some '_' := by decide
  intro reserved
  obtain ⟨count, shape, padded⟩ := accessorName_toList taken fieldName
  have ending := endings _ reserved
  cases count with
  | zero =>
    rw [List.replicate_zero, List.append_nil, String.toList_inj] at shape
    exact padded (shape ▸ reserved) rfl
  | succ count =>
    rw [shape, List.replicate_succ', ← List.append_assoc, List.getLast?_concat] at ending
    exact ending rfl

/-- A name that means the same inside a class and outside, and that classes give no meaning of their own: it
does not begin with two underscores, or it has nothing but underscores. -/
def IsOrdinary (name : String) : Prop :=
  Text.beginsWith "__" name = false ∨ ∀ c ∈ name.toList, c = '_'

theorem IsOrdinary.ne_special {special : String} (ordinary : IsOrdinary name)
    (begins : Text.beginsWith "__" special = true) (letters : (special.toList.all (· == '_')) = false) :
    name ≠ special := by
  rintro rfl
  rcases ordinary with plain | underscores
  · rw [plain] at begins
    cases begins
  · rw [List.all_eq_true.mpr fun c member => beq_iff_eq.mpr (underscores c member)] at letters
    cases letters

/-- A name that is looked up as accessors are: it is ordinary, and nothing that is inherited has it. -/
def IsAccessible (name : String) : Prop := IsOrdinary name ∧ name ∉ reservedWords

theorem IsAccessible.ne_special {special : String} (accessible : IsAccessible name)
    (begins : Text.beginsWith "__" special = true) (letters : (special.toList.all (· == '_')) = false) :
    name ≠ special := accessible.1.ne_special begins letters

theorem IsAccessible.ne_reserved {word : String} (accessible : IsAccessible name)
    (reserved : word ∈ reservedWords) : name ≠ word := by
  rintro rfl
  exact accessible.2 reserved

/-- Names of underscores alone end as they begin. -/
theorem IsOrdinary.isPrivateName (ordinary : IsOrdinary name) : Target.isPrivateName name = false := by
  rw [Target.isPrivateName]
  rcases ordinary with plain | underscores
  · rw [plain, Bool.false_and, Bool.false_and]
  · have shape : name.toList = List.replicate name.toList.length '_' :=
      List.eq_replicate_iff.mpr ⟨rfl, underscores⟩
    have ends : Text.endsWith "__" name = Text.beginsWith "__" name := by
      rw [Text.endsWith, Text.beginsWith, List.isSuffixOf, shape, List.reverse_replicate]
      rfl
    rw [ends]
    cases Text.beginsWith "__" name <;> rfl

/-- From outside an ordinary name is reached as it is. -/
theorem IsOrdinary.outerName_eq (ordinary : IsOrdinary name) (className : String) :
    Target.outerName className name = name := Target.outerName_of_visible ordinary.isPrivateName

private theorem beginsWith_eq {c : Char} {rest : List Char} (shape : name.toList = c :: rest) :
    Text.beginsWith "__" name = ('_' == c && ['_'].isPrefixOf rest) := by
  rw [Text.beginsWith, shape]
  rfl

theorem accessorName_ordinary (taken : List String) {field : Sdl.Name}
    (plain : Text.beginsWith "__" field.text = false) : IsOrdinary (accessorName taken field.text) := by
  obtain ⟨c, rest, shape, _⟩ := capitalized_name field
  obtain ⟨count, whole, _⟩ := accessorName_toList taken field.text
  rw [shape, List.cons_append] at whole
  rw [beginsWith_eq shape] at plain
  cases rest with
  | nil =>
    by_cases underscore : c = '_'
    · subst underscore
      right
      rw [whole, List.nil_append]
      intro d member
      rcases List.mem_cons.mp member with rfl | behind
      · rfl
      · exact List.eq_of_mem_replicate behind
    · left
      rw [beginsWith_eq whole]
      simp [Ne.symm underscore]
  | cons d more =>
    left
    rw [beginsWith_eq whole]
    simpa [List.isPrefixOf] using plain

/-- Letters have letters as their upper case. -/
private theorem eq_underscore_of_toUpper {c : Char} (upper : c.toUpper = '_') : c = '_' := by
  unfold Char.toUpper at upper
  split at upper
  · next lower =>
    have value := congrArg Char.toNat upper
    simp only [UInt32.le_iff_toNat_le] at lower
    have first : 'a'.val.toNat = 97 := rfl
    have last : 'z'.val.toNat = 122 := rfl
    have number : c.toNat = c.val.toNat := rfl
    have moved : (c.toNat + 4294967264) % 4294967296 = 95 := by simpa using value
    omega
  · exact upper

theorem className_ordinary {typeName : Sdl.Name} (plain : Text.beginsWith "__" typeName.text = false) :
    IsOrdinary (className typeName.text) := by
  left
  obtain ⟨c, rest, shape, whole⟩ := capitalized_name typeName
  rw [beginsWith_eq shape] at plain
  rw [beginsWith_eq whole]
  cases rest with
  | nil => simp [List.isPrefixOf]
  | cons d more =>
    by_cases underscore : c.toUpper = '_'
    · rw [eq_underscore_of_toUpper underscore] at plain
      simpa [List.isPrefixOf, underscore] using plain
    · simp [Ne.symm underscore]

namespace Context

open Sdl Schema

variable {context : Context} {fields : List ResolvedField} {accessor : Accessor}

/-- The accessors of a class have different names, and none that was taken before. -/
theorem accessors_names (context : Context) (taken : List String) (fields : List ResolvedField) :
    ((context.accessors taken fields).map Accessor.name).Nodup ∧
      ∀ accessor ∈ context.accessors taken fields, accessor.name ∉ taken := by
  induction fields generalizing taken with
  | nil => exact ⟨List.nodup_nil, by simp [accessors]⟩
  | cons resolved rest ih =>
    obtain ⟨distinct, fresh⟩ := ih (accessorName taken resolved.field.name.text :: taken)
    refine ⟨List.nodup_cons.mpr ⟨fun again => ?_, distinct⟩, fun accessor member => ?_⟩
    · obtain ⟨accessor, member, same⟩ := List.mem_map.mp again
      exact fresh accessor member (same ▸ List.mem_cons_self)
    · rcases List.mem_cons.mp member with rfl | later
      · exact accessorName_free taken _
      · exact fun old => fresh accessor later (List.mem_cons_of_mem _ old)

/-- An accessor stands for one of the fields and is named after it. -/
theorem accessor_named {taken : List String} (member : accessor ∈ context.accessors taken fields) :
    ∃ resolved ∈ fields, accessor.fieldName = resolved.field.name.text ∧
      ∃ before, accessor.name = accessorName before resolved.field.name.text := by
  induction fields generalizing taken with
  | nil => cases member
  | cons resolved rest ih =>
    rcases List.mem_cons.mp member with rfl | later
    · exact ⟨resolved, List.mem_cons_self, rfl, taken, rfl⟩
    · obtain ⟨found, inRest, named⟩ := ih later
      exact ⟨found, List.mem_cons_of_mem _ inRest, named⟩

/-- The accessors of a class record the fields that they are for, in the same order. -/
theorem accessors_fieldNames (taken : List String) (fields : List ResolvedField) :
    (context.accessors taken fields).map Accessor.fieldName
      = fields.map fun resolved => resolved.field.name.text := by
  induction fields generalizing taken with
  | nil => rfl
  | cons resolved rest ih => simp only [accessors, List.map_cons, ih]

/-- The fields of a type that generation looks at have different names. -/
theorem resolvedFields_nodup (context : Context) (isRoot : Bool) (position : Nat)
    (definition : TypeDefinition) :
    ((context.resolvedFields isRoot position definition).map
      fun resolved => resolved.field.name.text).Nodup := by
  have distinct : ((survivingFields context.settings context.document position definition).map
      Field.name).Nodup := by
    refine (firstOccurrences_nodup [] (candidateFields context.document position definition)).1.sublist
      (List.Sublist.map _ ?_)
    rw [survivingFields, filteredFields_eq_filter]
    exact List.filter_sublist
  have texts := distinct.map fun (one : Name) (other : Name) (same : one.text = other.text) => Name.ext same
  simpa [resolvedFields, Function.comp_def] using texts

end Context

end SelectionGen.Projection
