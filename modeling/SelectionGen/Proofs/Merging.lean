import SelectionGen.Proofs.Lookup
import SelectionGen.Schema.Fields
import SelectionGen.Schema.Subject

/-! The fields of a type, merged. Where the definition of a type stands among the extensions of its name has no
part in what its fields are: the definition's own come first, then those of the extensions in the order
of the document. A type that is only extended has the fields of its extensions in that order. Of these
fields merging keeps the first of each name. -/
namespace SelectionGen.Schema

open Sdl

/-- Whether an entry extends the object type of a name. -/
def extendsObject (name : Name) (entry : Definition) : Bool :=
  match entry.type? with
  | some found => decide (ObjectNamed name true found)
  | none => false

/-- The fields that the extensions of an object type add, in the order of the document. -/
def extendedFields (document : Document) (name : Name) : List Field :=
  document.flatMap (extensionFields name)

variable {document front back : Document} {name : Name} {definition : TypeDefinition} {position : Nat}

theorem extensionFields_eq_nil (unfit : ¬ ObjectNamed name true definition) :
    extensionFields name (.type definition) = [] := by
  simp only [extensionFields, Definition.type?]
  rw [if_neg fun fits => unfit ⟨fits.1, fits.2.2, fits.2.1⟩]

theorem extensionFields_eq_fields (fits : ObjectNamed name true definition) :
    extensionFields name (.type definition) = definition.fields := by
  simp only [extensionFields, Definition.type?]
  rw [if_pos ⟨fits.1, fits.2.2, fits.2.1⟩]

/-- An entry adds all its fields to the object that it extends, and nothing to any other. -/
theorem extensionFields_eq_ite (name : Name) (entry : Definition) :
    extensionFields name entry = if extendsObject name entry then entry.fields else [] := by
  cases entry with
  | schema | directive | operation | fragment => rfl
  | type found =>
    by_cases fits : ObjectNamed name true found
    · simp [extensionFields_eq_fields fits, extendsObject, Definition.type?, fits, Definition.fields]
    · simp [extensionFields_eq_nil fits, extendsObject, Definition.type?, fits]

/-- What the extensions of an object add is what they have as fields. -/
theorem extendedFields_eq_flatMap_filter (document : Document) (name : Name) :
    extendedFields document name = (document.filter (extendsObject name)).flatMap Definition.fields := by
  induction document with
  | nil => rfl
  | cons entry rest ih =>
    rw [extendedFields] at ih ⊢
    cases extending : extendsObject name entry with
    | true =>
      rw [List.filter_cons_of_pos extending, List.flatMap_cons, List.flatMap_cons, ih,
        extensionFields_eq_ite, if_pos extending]
    | false => simp [extending, ih, extensionFields_eq_ite]

/-- Where a change acts on the fields of extensions in one way, so it does on what they add. -/
theorem extensionFields_mapEntry {change : TypeDefinition → TypeDefinition} {along : List Field → List Field}
    (keeps : KeepsHeads change) (nothing : along [] = [])
    (fields : ∀ definition, ObjectNamed name true definition →
      (change definition).fields = along definition.fields) (entry : Definition) :
    extensionFields name (mapEntry change entry) = along (extensionFields name entry) := by
  cases entry with
  | schema | directive | operation | fragment => exact nothing.symm
  | type definition =>
    have sameHead : ObjectNamed name true (change definition) ↔ ObjectNamed name true definition := by
      rw [ObjectNamed, keeps.kind, keeps.name, keeps.isExtension]
      rfl
    by_cases fits : ObjectNamed name true definition
    · rw [mapEntry, extensionFields_eq_fields fits, extensionFields_eq_fields (sameHead.mpr fits)]
      exact fields definition fits
    · rw [mapEntry, extensionFields_eq_nil fits, extensionFields_eq_nil (mt sameHead.mp fits), nothing]

theorem extendsObject_eq_true_iff {entry : Definition} : extendsObject name entry = true ↔
    ∃ extension, entry = .type extension ∧ ObjectNamed name true extension := by
  cases entry with
  | type found => simp [extendsObject, Definition.type?]
  | schema | directive | operation | fragment => simp [extendsObject, Definition.type?]

/-- The entries of a document but for the one at a position, in their order. -/
def elsewhere (document : Document) (position : Nat) : Document :=
  (document.zipIdx.filter fun (_, place) => place != position).map Prod.fst

theorem elsewhere_cons_zero (entry : Definition) (rest : Document) :
    elsewhere (entry :: rest) 0 = rest := by
  have keptAll : ∀ pair ∈ rest.zipIdx 1, (pair.2 != 0) = true := by
    intro pair member
    have behind := List.le_snd_of_mem_zipIdx member
    apply bne_iff_ne.mpr
    omega
  rw [elsewhere, List.zipIdx_cons, List.filter_cons_of_neg (by simp), List.filter_eq_self.mpr keptAll,
    List.zipIdx_map_fst]

theorem elsewhere_cons_succ (entry : Definition) (rest : Document) (position : Nat) :
    elsewhere (entry :: rest) (position + 1) = entry :: elsewhere rest position := by
  rw [elsewhere, List.zipIdx_cons', List.filter_cons_of_pos (by simp), List.filter_map, List.map_cons,
    List.map_map]
  simp [elsewhere, Function.comp_def, Prod.map]

/-- Going through all entries but one is going through what is left without it. -/
theorem elsewhere_eq_eraseIdx (document : Document) (position : Nat) :
    elsewhere document position = document.eraseIdx position := by
  induction document generalizing position with
  | nil => rfl
  | cons entry rest ih =>
    cases position with
    | zero => exact elsewhere_cons_zero entry rest
    | succ position => rw [elsewhere_cons_succ, ih, List.eraseIdx_cons_succ]

theorem mem_elsewhere {entry : Definition} :
    entry ∈ elsewhere document position ↔ ∃ place, place ≠ position ∧ document[place]? = some entry := by
  rw [elsewhere_eq_eraseIdx, List.mem_eraseIdx_iff_getElem?]

/-- An entry that is dropped anyway need not be left out. -/
theorem filter_elsewhere {keeps : Definition → Bool} {entry : Definition}
    (stored : document[position]? = some entry) (dropped : keeps entry = false) :
    (elsewhere document position).filter keeps = document.filter keeps := by
  induction document generalizing position with
  | nil => simp at stored
  | cons first rest ih =>
    cases position with
    | zero =>
      obtain rfl : first = entry := by simpa using stored
      rw [elsewhere_cons_zero, List.filter_cons_of_neg (by simp [dropped])]
    | succ position =>
      rw [elsewhere_cons_succ, List.filter_cons, List.filter_cons, ih (by simpa using stored)]

theorem subjectAt_eq_ok_iff : subjectAt document position = .ok definition ↔
    ∃ entry, document[position]? = some entry ∧ entry.asType? = some definition := by
  cases stored : document[position]? with
  | none => simp [subjectAt, definitionAt, stored, bind, Except.bind]
  | some entry =>
    cases entry with
    | operation name _ =>
      cases name <;> simp [subjectAt, definitionAt, stored, bind, Except.bind, Definition.asType?, Definition.name?]
    | type | schema | directive | fragment =>
      simp [subjectAt, definitionAt, stored, bind, Except.bind, Definition.asType?, Definition.name?]

theorem candidateFields_eq (document : Document) (position : Nat) (definition : TypeDefinition) :
    candidateFields document position definition = definition.fields
      ++ ((elsewhere document position).filter (extendsObject definition.name)).flatMap Definition.fields := by
  rw [candidateFields, elsewhere_eq_eraseIdx, ← extendedFields_eq_flatMap_filter, extendedFields]

/-- What is no extension has its own fields and those of all extensions of its name, wherever it stands. -/
theorem candidateFields_of_subject (subject : subjectAt document position = .ok definition)
    (isDefinition : definition.isExtension = false) :
    candidateFields document position definition
      = definition.fields ++ extendedFields document definition.name := by
  rw [subjectAt_eq_ok_iff] at subject
  obtain ⟨entry, stored, shape⟩ := subject
  have dropped : extendsObject definition.name entry = false := by
    cases extending : extendsObject definition.name entry with
    | false => rfl
    | true =>
      obtain ⟨extension, rfl, fits⟩ := extendsObject_eq_true_iff.mp extending
      obtain rfl : extension = definition := Option.some.inj shape
      exact absurd (isDefinition.symm.trans fits.2.2) Bool.false_ne_true
  rw [candidateFields_eq, filter_elsewhere stored dropped, extendedFields_eq_flatMap_filter]

/-- A definition has its own fields and those of all extensions of its name. -/
theorem candidateFields_of_definition (stored : typeAt? document position = some definition)
    (isDefinition : definition.isExtension = false) :
    candidateFields document position definition
      = definition.fields ++ extendedFields document definition.name :=
  candidateFields_of_subject (subjectAt_eq_ok_iff.mpr ⟨_, typeAt_eq_some_iff.mp stored, rfl⟩) isDefinition

private theorem candidateFields_split (size : front.length = position) :
    candidateFields (front ++ .type definition :: back) position definition
      = definition.fields ++ (extendedFields front definition.name
          ++ extendedFields back definition.name) := by
  subst size
  simp [candidateFields, extendedFields, List.eraseIdx_append_of_length_le]

/-- An object has its own fields and those of all extensions of its name. One that is only extended has those
of all extensions, to which its first extension then belongs. -/
theorem candidateFields_of_object {isExtension : Bool} {found : Nat × TypeDefinition}
    (isFirst : IsFirst document (ObjectNamed name isExtension) found) :
    candidateFields document found.1 found.2
      = (if isExtension then [] else found.2.fields) ++ extendedFields document name := by
  have named := isFirst.fits.2.1
  cases isExtension with
  | false => rw [candidateFields_of_definition isFirst.stored isFirst.fits.2.2, named]; rfl
  | true =>
    obtain ⟨front, back, rfl, size, missed⟩ := isFirst.split
    have own := extensionFields_eq_fields isFirst.fits
    have before : extendedFields front name = [] := by
      refine List.flatMap_eq_nil_iff.mpr fun entry member => ?_
      cases entry with
      | type other => exact extensionFields_eq_nil (missed other member)
      | schema | directive | operation | fragment => rfl
    rw [candidateFields_split size, named, before, if_pos rfl, List.nil_append, List.nil_append]
    rw [extendedFields] at before
    rw [extendedFields, extendedFields, List.flatMap_append, before, List.flatMap_cons, own,
      List.nil_append]

/-- Where no two fields have the same name, merging leaves none out. -/
theorem firstOccurrences_of_nodup {seen : List Name} {fields : List Field}
    (distinct : (fields.map Field.name).Nodup) (fresh : ∀ field ∈ fields, field.name ∉ seen) :
    firstOccurrences seen fields = fields := by
  induction fields generalizing seen with
  | nil => rfl
  | cons field rest ih =>
    obtain ⟨apart, restDistinct⟩ := List.nodup_cons.mp distinct
    rw [firstOccurrences, if_neg (fresh field (List.mem_cons_self ..)), ih restDistinct]
    intro other member taken
    rcases List.mem_cons.mp taken with same | before
    · exact apart (same ▸ List.mem_map_of_mem member)
    · exact fresh other (List.mem_cons_of_mem _ member) before

/-- Merging gives no name twice. -/
theorem firstOccurrences_nodup (seen : List Name) (fields : List Field) :
    ((firstOccurrences seen fields).map Field.name).Nodup ∧
      ∀ field ∈ firstOccurrences seen fields, field.name ∉ seen := by
  induction fields generalizing seen with
  | nil => exact ⟨List.nodup_nil, by simp [firstOccurrences]⟩
  | cons field rest ih =>
    rw [firstOccurrences]
    split
    · exact ih seen
    · next fresh =>
      obtain ⟨distinct, absent⟩ := ih (field.name :: seen)
      refine ⟨List.nodup_cons.mpr ⟨fun again => ?_, distinct⟩, fun other member => ?_⟩
      · obtain ⟨other, member, same⟩ := List.mem_map.mp again
        exact absent other member (same ▸ List.mem_cons_self)
      · rcases List.mem_cons.mp member with rfl | later
        · exact fresh
        · exact fun old => absent other later (List.mem_cons_of_mem _ old)

theorem firstOccurrences_sublist (seen : List Name) (fields : List Field) :
    (firstOccurrences seen fields).Sublist fields := by
  induction fields generalizing seen with
  | nil => exact .slnil
  | cons field rest ih =>
    rw [firstOccurrences]
    split
    · exact (ih seen).cons field
    · exact (ih _).cons_cons field

/-- Fields whose names all occur before them add nothing. -/
theorem firstOccurrences_absorb {seen : List Name} {before copies behind : List Field}
    (known : ∀ field ∈ copies, field.name ∈ seen ∨ ∃ other ∈ before, other.name = field.name) :
    firstOccurrences seen (before ++ (copies ++ behind)) = firstOccurrences seen (before ++ behind) := by
  induction before generalizing seen with
  | nil =>
    induction copies with
    | nil => rfl
    | cons field rest ih =>
      have taken : field.name ∈ seen := by simpa using known field List.mem_cons_self
      have skipped : firstOccurrences seen (field :: (rest ++ behind))
          = firstOccurrences seen (rest ++ behind) := by simp [firstOccurrences, taken]
      exact skipped.trans (ih fun other member => known other (List.mem_cons_of_mem _ member))
  | cons field rest ih =>
    simp only [List.cons_append, firstOccurrences]
    split
    · next taken =>
      refine ih fun copy member => ?_
      rcases known copy member with old | ⟨other, inBefore, same⟩
      · exact .inl old
      · rcases List.mem_cons.mp inBefore with rfl | later
        · exact .inl (same ▸ taken)
        · exact .inr ⟨other, later, same⟩
    · refine congrArg (field :: ·) (ih fun copy member => ?_)
      rcases known copy member with old | ⟨other, inBefore, same⟩
      · exact .inl (List.mem_cons_of_mem _ old)
      · rcases List.mem_cons.mp inBefore with rfl | later
        · exact .inl (same ▸ List.mem_cons_self)
        · exact .inr ⟨other, later, same⟩

/-- The fields that no field of the same name stands before, in their order. -/
def firstOfEach (fields : List Field) : List Field :=
  (fields.zipIdx.filter fun (field, place) =>
    (fields.take place).all fun other => other.name != field.name).map Prod.fst

/-- The names seen so far stand for the fields in front, which is what the induction is on. -/
theorem firstOccurrences_eq_filter (seen : List Name) (fields : List Field) :
    firstOccurrences seen fields = (fields.zipIdx.filter fun (field, place) =>
      decide (field.name ∉ seen)
        && (fields.take place).all fun other => other.name != field.name).map Prod.fst := by
  induction fields generalizing seen with
  | nil => rfl
  | cons field rest ih =>
    rw [firstOccurrences, List.zipIdx_cons', List.filter_cons, List.filter_map]
    simp only [List.take_zero, List.all_nil, Bool.and_true, decide_eq_true_eq]
    by_cases known : field.name ∈ seen
    · rw [if_pos known, if_neg (not_not_intro known), List.map_map, ih seen]
      refine congrArg _ (List.filter_congr ?_)
      rintro ⟨other, place⟩ -
      by_cases same : field.name = other.name
      · simp [← same, known]
      · simp [bne_iff_ne.mpr same]
    · rw [if_neg known, if_pos known, List.map_cons, List.map_map, ih (field.name :: seen)]
      refine congrArg _ (congrArg _ (List.filter_congr ?_))
      rintro ⟨other, place⟩ -
      by_cases same : field.name = other.name
      · simp [same]
      · simp [Ne.symm same, bne_iff_ne.mpr same]

theorem firstOccurrences_eq_firstOfEach (fields : List Field) :
    firstOccurrences [] fields = firstOfEach fields := by
  rw [firstOccurrences_eq_filter, firstOfEach]
  simp

/-- Of each name that was not seen a field is left. -/
theorem mem_firstOccurrences_names {seen : List Name} {fields : List Field} :
    name ∈ (firstOccurrences seen fields).map Field.name ↔
      name ∈ fields.map Field.name ∧ name ∉ seen := by
  induction fields generalizing seen with
  | nil => simp [firstOccurrences]
  | cons field rest ih =>
    rw [firstOccurrences, List.map_cons, List.mem_cons]
    by_cases known : field.name ∈ seen
    · rw [if_pos known, ih]
      constructor
      · exact fun ⟨member, fresh⟩ => ⟨.inr member, fresh⟩
      · rintro ⟨rfl | member, fresh⟩
        · exact absurd known fresh
        · exact ⟨member, fresh⟩
    · rw [if_neg known, List.map_cons, List.mem_cons, ih, List.mem_cons]
      by_cases same : name = field.name
      · simp [same, known]
      · simp [same]

theorem mem_mergedFields_names (subject : subjectAt document position = .ok definition) :
    name ∈ (mergedFields document position definition).map Field.name ↔
      name ∈ definition.fields.map Field.name ∨
        ∃ extension, .type extension ∈ document ∧ ObjectNamed definition.name true extension ∧
          name ∈ extension.fields.map Field.name := by
  rw [mergedFields, mem_firstOccurrences_names, candidateFields_eq, List.map_append, List.mem_append,
    List.map_flatMap, List.mem_flatMap]
  simp only [List.not_mem_nil, not_false_eq_true, and_true, List.mem_filter, mem_elsewhere,
    extendsObject_eq_true_iff]
  constructor
  · rintro (own | ⟨_, ⟨⟨place, _, stored⟩, extension, rfl, fits⟩, named⟩)
    · exact .inl own
    · exact .inr ⟨extension, List.mem_of_getElem? stored, fits, named⟩
  · rintro (own | ⟨extension, member, fits, named⟩)
    · exact .inl own
    · obtain ⟨place, stored⟩ := List.mem_iff_getElem?.mp member
      by_cases here : place = position
      · -- The extension is the definition itself, so what it adds are the definition's own fields.
        subst here
        obtain ⟨entry, found, shape⟩ := subjectAt_eq_ok_iff.mp subject
        obtain rfl : .type extension = entry := Option.some.inj (stored.symm.trans found)
        obtain rfl : extension = definition := Option.some.inj shape
        exact .inl named
      · exact .inr ⟨_, ⟨⟨place, here, stored⟩, extension, rfl, fits⟩, named⟩

/-- **Merging keeps the first field of each name.** What is gone through are the fields of the definition itself and
then those of all other object extensions of its name, in the order of the document, and of these fields
every one is kept that none of its name stands before. So no name occurs twice, and every name of any of
the fields occurs. What is no extension has the same fields wherever it stands among the extensions. -/
theorem mergedFields_exact (subject : subjectAt document position = .ok definition) :
    mergedFields document position definition = firstOfEach (definition.fields
      ++ ((elsewhere document position).filter (extendsObject definition.name)).flatMap Definition.fields) ∧
    ((mergedFields document position definition).map Field.name).Nodup ∧
    (∀ name, name ∈ (mergedFields document position definition).map Field.name ↔
      name ∈ definition.fields.map Field.name ∨
        ∃ extension, .type extension ∈ document ∧ ObjectNamed definition.name true extension ∧
          name ∈ extension.fields.map Field.name) ∧
    (definition.isExtension = false → ∀ other place, subjectAt other place = .ok definition →
      other.filter (extendsObject definition.name) = document.filter (extendsObject definition.name) →
      mergedFields other place definition = mergedFields document position definition) := by
  refine ⟨?_, (firstOccurrences_nodup _ _).1, fun name => mem_mergedFields_names subject, ?_⟩
  · rw [mergedFields, candidateFields_eq, firstOccurrences_eq_firstOfEach]
  · intro isDefinition other place otherSubject sameExtensions
    rw [mergedFields, mergedFields, candidateFields_of_subject otherSubject isDefinition,
      candidateFields_of_subject subject isDefinition, extendedFields_eq_flatMap_filter,
      extendedFields_eq_flatMap_filter, sameExtensions]

/-! A pet that is extended in front of its definition and behind it, with names that come again. -/
namespace Pets

def named (name : Name) (type : Name) : Field := { name, type := ⟨[], type⟩ }

def label : Name := ⟨"Label", by decide +kernel⟩

def count : Name := ⟨"Count", by decide +kernel⟩

def nickname : Name := ⟨"nickname", by decide +kernel⟩

def age : Name := ⟨"age", by decide +kernel⟩

def legs : Name := ⟨"legs", by decide +kernel⟩

def pet : TypeDefinition where
  kind := .object
  name := ⟨"Pet", by decide +kernel⟩
  fields := [named nickname label, named age count, named nickname count]

def early : TypeDefinition where
  kind := .object
  isExtension := true
  name := pet.name
  fields := [named nickname count]

def late : TypeDefinition where
  kind := .object
  isExtension := true
  name := pet.name
  fields := [named age label, named legs count, named nickname label]

def schema : Document := [.type early, .type pet, .type late]

/-- The definition has the first field of each name wherever it stands. What stands last starts with its own fields
and does not have those of the definition. -/
theorem pets_merged :
    subjectAt schema 1 = .ok pet ∧
    mergedFields schema 1 pet = [named nickname label, named age count, named legs count] ∧
    mergedFields [.type pet, .type early, .type late] 0 pet = mergedFields schema 1 pet ∧
    subjectAt schema 2 = .ok late ∧
    mergedFields schema 2 late = [named age label, named legs count, named nickname label] := by
  have isPet : subjectAt schema 1 = .ok pet := rfl
  have isLate : subjectAt schema 2 = .ok late := rfl
  obtain ⟨ofPet, _, _, anywhere⟩ := mergedFields_exact isPet
  obtain ⟨ofLate, _⟩ := mergedFields_exact isLate
  refine ⟨isPet, ofPet.trans ?_, anywhere rfl _ 0 rfl ?_, isLate, ofLate.trans ?_⟩
  · decide
  · decide
  · decide

end Pets

end SelectionGen.Schema
