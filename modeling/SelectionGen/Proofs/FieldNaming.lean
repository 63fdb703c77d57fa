import Mathlib.Order.Bounds.Basic
import SelectionGen.Proofs.Coherence

/-! How accessors are named after their fields. An accessor has the name of its field with as many underscores
behind it as are needed and not one more: a name that is reserved or that an accessor in front has is passed
over. So an underscored name that a field has by itself can push a later one further, and in the end the
accessors of a class still stand for its fields one to one. -/
namespace SelectionGen.Projection

variable {taken : List String} {name fieldName : String} {count other : Nat}

/-- Underscores are all that is behind the name, and no reserved word ends with one. -/
theorem padded_unreserved (behind : count ≠ 0) : padded name count ∉ reservedWords := by
  have endings : ∀ word ∈ reservedWords, word.toList.getLast? ≠ some '_' := by decide
  intro reserved
  obtain ⟨shorter, rfl⟩ := Nat.exists_eq_succ_of_ne_zero behind
  have ending := endings _ reserved
  rw [padded_toList, List.replicate_succ', ← List.append_assoc, List.getLast?_concat] at ending
  exact ending rfl

theorem padded_zero (name : String) : padded name 0 = name := by
  rw [← String.toList_inj, padded_toList, List.replicate_zero, List.append_nil]

/-- An underscore of the name is one of those behind what is in front of it. -/
theorem padded_underscore (name : String) (count : Nat) : padded (name ++ "_") count = padded name (count + 1) := by
  rw [← String.toList_inj, padded_toList, padded_toList, String.toList_append, List.append_assoc,
    List.replicate_succ]
  rfl

/-- Of all paddings that free the name the chosen one is the least. -/
theorem freePadding_least (taken : List String) (name : String) :
    IsLeast {count | padded name count ∉ taken} (freePadding taken name) := by
  refine ⟨padded_freePadding taken name, fun other free => ?_⟩
  rw [freePadding]
  cases found : (List.range (taken.length + 1)).find? fun count => !taken.contains (padded name count) with
  | none => exact Nat.zero_le _
  | some chosen =>
    by_contra shorter
    have passed := (List.find?_range_eq_some.mp found).2.2 other (Nat.lt_of_not_le shorter)
    exact free (by simpa using passed)

/-- The paddings of a field's name that give an accessor a name it may have. -/
def Paddings (taken : List String) (fieldName : String) : Set Nat :=
  {count | padded fieldName count ∉ reservedWords ∧ padded fieldName count ∉ taken}

/-- An accessor has the least padding that leads past reserved words and names that are taken. -/
theorem accessorName_least (taken : List String) (fieldName : String) :
    ∃ count, accessorName taken fieldName = padded fieldName count ∧ IsLeast (Paddings taken fieldName) count ∧
      (fieldName ∈ reservedWords → 1 ≤ count) := by
  by_cases reserved : fieldName ∈ reservedWords
  · have moved : sanitize fieldName = fieldName ++ "_" := by simp [sanitize, reserved]
    obtain ⟨free, least⟩ := freePadding_least taken (fieldName ++ "_")
    refine ⟨freePadding taken (fieldName ++ "_") + 1, ?_, ⟨⟨padded_unreserved (Nat.succ_ne_zero _), ?_⟩, ?_⟩,
      fun _ => Nat.le_add_left ..⟩
    · rw [accessorName, moved, padded_underscore]
    · exact padded_underscore fieldName _ ▸ free
    · rintro other ⟨unreserved, unheld⟩
      cases other with
      | zero => exact absurd reserved (padded_zero fieldName ▸ unreserved)
      | succ shorter =>
        rw [← padded_underscore] at unheld
        exact Nat.succ_le_succ (least unheld)
  · have kept : sanitize fieldName = fieldName := by simp [sanitize, reserved]
    obtain ⟨free, least⟩ := freePadding_least taken fieldName
    refine ⟨freePadding taken fieldName, by rw [accessorName, kept], ⟨⟨?_, free⟩, ?_⟩,
      fun held => absurd held reserved⟩
    · by_cases none : freePadding taken fieldName = 0
      · rwa [none, padded_zero]
      · exact padded_unreserved none
    · exact fun other allowed => least allowed.2

theorem paddings_congr {others : List String} (same : ∀ name, name ∈ taken ↔ name ∈ others)
    (fieldName : String) : Paddings taken fieldName = Paddings others fieldName := by
  ext count
  exact and_congr_right fun _ => not_congr (same _)

/-- What the names of a class have to do with those of its fields: no two fields and no two accessors have one name,
no accessor has a reserved one, and each has the least padding that leads past those in front of it. -/
structure NamesFields (projection : Projection) : Prop where
  fieldNames : (projection.accessors.map Accessor.fieldName).Nodup
  names : (projection.accessors.map Accessor.name).Nodup
  unreserved : ∀ accessor ∈ projection.accessors, accessor.name ∉ reservedWords
  leastPadded : ∀ front accessor back, projection.accessors = front ++ accessor :: back →
    ∃ count, accessor.name = padded accessor.fieldName count ∧
      IsLeast (Paddings (front.map Accessor.name) accessor.fieldName) count ∧
      (accessor.fieldName ∈ reservedWords → 1 ≤ count)

namespace Context

open Sdl Schema

variable {context : Context} {fields : List ResolvedField} {accessor : Accessor} {front back : List Accessor}

/-- The names in front of an accessor are those that it passes over. -/
theorem accessors_padded {taken : List String}
    (split : context.accessors taken fields = front ++ accessor :: back) :
    ∃ count, accessor.name = padded accessor.fieldName count ∧
      IsLeast (Paddings (front.map Accessor.name ++ taken) accessor.fieldName) count ∧
      (accessor.fieldName ∈ reservedWords → 1 ≤ count) := by
  induction front generalizing taken fields with
  | nil =>
    cases fields with
    | nil => cases split
    | cons resolved rest =>
      obtain ⟨rfl, -⟩ := List.cons.inj split
      exact accessorName_least taken resolved.field.name.text
  | cons first front ih =>
    cases fields with
    | nil => cases split
    | cons resolved rest =>
      obtain ⟨rfl, later⟩ := List.cons.inj split
      obtain ⟨count, named, least, reserved⟩ := ih later
      refine ⟨count, named, ?_, reserved⟩
      rwa [paddings_congr fun name => ?_]
      simp only [List.map_cons, List.mem_append, List.mem_cons]
      tauto

theorem accessors_namesFields {projection : Projection}
    (written : projection.accessors = context.accessors [] fields)
    (distinct : (fields.map fun resolved => resolved.field.name.text).Nodup) : projection.NamesFields where
  fieldNames := by rwa [written, accessors_fieldNames]
  names := written ▸ (context.accessors_names [] fields).1
  unreserved := by
    intro accessor member
    exact accessors_unreserved accessor (written ▸ member)
  leastPadded := by
    intro front accessor back split
    simpa only [List.append_nil] using accessors_padded (written.symm.trans split)

/-- **Accessors are named after their fields and never alike.** In every class that a run gives out the fields have
different names, and so have the accessors; none of these is reserved, and each is the name of its field with the
least number of underscores behind it that leads past reserved words and the accessors in front. The accessors of
a class of the client stand one to one for the surviving fields of its type, those of the entry point for the
surviving fields of the root that lead to a type. -/
theorem generate_names_fields {context : Context} {position : Nat} {definition : TypeDefinition} {api : Api}
    (done : (context.generate position definition).1 = .ok api) :
    (∀ projection ∈ api.queryTypes, projection.NamesFields ∧
      projection.accessors.map Accessor.fieldName
        = ((context.resolvedFields true position definition).filter fun resolved => resolved.target?.isSome).map
            fun resolved => resolved.field.name.text) ∧
    (∀ projection ∈ api.clientProjections, projection.NamesFields ∧
      ∃ target, context.Reached (context.rootTargets position definition) target ∧
        projection.sourceType = target.typeName ∧
        projection.accessors.map Accessor.fieldName
          = (survivingFields context.settings context.document target.1 target.2).map
              fun field => field.name.text) := by
  obtain ⟨given, final, descent, rfl⟩ := generate_ok done
  refine ⟨fun projection member => ?_, fun projection member => ?_⟩
  · obtain rfl := List.mem_singleton.mp member
    refine ⟨accessors_namesFields rfl ?_, accessors_fieldNames ..⟩
    exact (context.resolvedFields_nodup true position definition).sublist (List.filter_sublist.map _)
  · obtain ⟨target, inGiven, rfl⟩ := List.mem_map.mp member
    refine ⟨accessors_namesFields rfl (context.resolvedFields_nodup false target.1 target.2), target,
      descent.given_reached target inGiven, rfl, ?_⟩
    rw [projection, projectionOf, accessors_fieldNames, resolvedFields, List.map_map]
    rfl

end Context

/-! A schema whose shelves have a field with a reserved name between two that are called like it with underscores
behind, and one more of these by an extension. -/
namespace Shelves

open Sdl Schema

def shelf : Target where
  fst := 1
  snd.kind := .object
  snd.name := ⟨"Shelf", by decide +kernel⟩
  snd.fields :=
    [{ name := ⟨"class_", by decide +kernel⟩, type := ⟨[], ⟨"Float", by decide +kernel⟩⟩ },
     { name := ⟨"class", by decide +kernel⟩, type := ⟨[], ⟨"Float", by decide +kernel⟩⟩ },
     { name := ⟨"fields", by decide +kernel⟩, type := ⟨[], ⟨"Shelf", by decide +kernel⟩⟩ }]

def extension : TypeDefinition where
  kind := .object
  isExtension := true
  name := shelf.name
  fields := [{ name := ⟨"class__", by decide +kernel⟩, type := ⟨[], ⟨"Float", by decide +kernel⟩⟩ }]

def query : TypeDefinition where
  kind := .object
  name := customaryQuery
  fields := [{ name := ⟨"from", by decide +kernel⟩, type := ⟨[], shelf.name⟩ }]

def context : Context := ⟨{}, [.type query, .type shelf.2, .type extension]⟩

theorem generated : (context.generate 0 query).1
    = .ok { queryTypes := [context.rootProjectionOf 0 query], clientProjections := [context.projection shelf] } := by
  have ofQuery : context.rootTargets 0 query = [shelf] := by decide
  have descent : context.Descent (context.rootTargets 0 query) [] [shelf] [shelf.entry] none := by
    rw [ofQuery]
    exact .alone rfl (by decide) .done
  exact Context.generate_of_descent descent

/-- Each of the names is pushed past the ones in front. -/
theorem shelves_names :
    (context.generate 0 query).1
      = .ok { queryTypes := [context.rootProjectionOf 0 query], clientProjections := [context.projection shelf] } ∧
    (context.projection shelf).accessors.map (fun accessor => (accessor.fieldName, accessor.name))
      = [("class_", "class_"), ("class", "class__"), ("fields", "fields_"), ("class__", "class___")] ∧
    (context.projection shelf).NamesFields := by
  refine ⟨generated, by decide, ?_⟩
  exact ((Context.generate_names_fields generated).2 _ List.mem_cons_self).1

end Shelves

end SelectionGen.Projection
