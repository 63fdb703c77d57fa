import SelectionGen.Proofs.Correspondence
import SelectionGen.Proofs.Merging

/-! Object types in parts. A type may leave the end of its list of fields to an extension, which then stands
somewhere in the document. That the extension comes before all others of its name is enough for merging
to put its fields where they were. No reference leads to it, and where the type is the root, its
definition is found all the same: so nothing that is generated tells one document from the other. -/
namespace SelectionGen.Schema

open Sdl

/-- An extension that adds fields to the object type of a name. -/
def extensionOf (name : Name) (fields : List Field) : TypeDefinition where
  kind := .object
  isExtension := true
  name := name
  fields := fields

/-- A cut through the fields of an object type of a document, which is the first to be defined under its name.
The fields behind the cut go to an extension at some place ahead of all others of that name. -/
structure Division (document : Document) where
  position : Nat
  definition : TypeDefinition
  own : List Field
  added : List Field
  place : Nat
  fields : definition.fields = own ++ added
  isObject : definition.kind = .object
  isFirst : IsFirst document
    (fun other => other.name = definition.name ∧ other.isExtension = false) (position, definition)
  inside : place ≤ document.length
  ahead : ∀ other, .type other ∈ document.take place → ¬ ObjectNamed definition.name true other

/-- An entry may be replaced by one that gives the same. -/
private theorem flatMap_set_of_same {α β : Type} {gives : α → List β} {items : List α} {index : Nat}
    {old new : α} (stored : items[index]? = some old) (same : gives new = gives old) :
    (items.set index new).flatMap gives = items.flatMap gives := by
  induction items generalizing index with
  | nil => rfl
  | cons item rest ih =>
    cases index with
    | zero =>
      cases stored
      rw [List.set_cons_zero, List.flatMap_cons, List.flatMap_cons, same]
    | succ index =>
      rw [List.set_cons_succ, List.flatMap_cons, List.flatMap_cons, ih stored]

namespace Division

variable {document : Document} (division : Division document) {name : Name}
  {found : Nat × TypeDefinition} {wanted : TypeDefinition → Prop}

/-- The extension that has the fields behind the cut. -/
def extension : TypeDefinition := extensionOf division.definition.name division.added

/-- The definition with the fields before the cut. -/
def rest : TypeDefinition := { division.definition with fields := division.own }

/-- The document where the definition keeps only the fields before the cut. -/
def reduced : Document := document.set division.position (.type division.rest)

/-- The document with the type in two parts. -/
def result : Document := division.reduced.insertIdx division.place (.type division.extension)

/-- Where an entry stands once the extension is there. -/
def moved (position : Nat) : Nat := if position < division.place then position else position + 1

/-- An entry of the document as it stands in the one with the type in two parts. -/
def divided (found : Nat × TypeDefinition) : Nat × TypeDefinition :=
  (division.moved found.1, if found.1 = division.position then division.rest else found.2)

theorem stored : typeAt? document division.position = some division.definition :=
  division.isFirst.stored

theorem entry : document[division.position]? = some (.type division.definition) :=
  typeAt_eq_some_iff.mp division.stored

theorem defines : division.definition.isExtension = false := division.isFirst.fits.2

theorem bound : division.position < document.length :=
  (List.getElem?_eq_some_iff.mp division.entry).1

theorem reduced_length : division.reduced.length = document.length := by simp [reduced]

theorem moved_strictMono {first second : Nat} (before : division.moved first < division.moved second) :
    first < second := by
  simp only [moved] at before
  split at before <;> split at before <;> omega

/-- Taking fields away changes neither the name of a type nor what it is. -/
theorem divided_shape (stored : typeAt? document found.1 = some found.2) :
    (division.divided found).2.kind = found.2.kind ∧
      (division.divided found).2.isExtension = found.2.isExtension ∧
      (division.divided found).2.name = found.2.name ∧
      (division.divided found).2.description = found.2.description := by
  by_cases here : found.1 = division.position
  · have same : found.2 = division.definition := by
      rw [here, division.stored] at stored
      exact (Option.some.inj stored).symm
    simp [divided, here, rest, same]
  · simp [divided, here]

/-- Whatever stood in the document stands in the one with the type in two parts. -/
theorem typeAt_result (stored : typeAt? document found.1 = some found.2) :
    typeAt? division.result (division.divided found).1 = some (division.divided found).2 := by
  have entry := typeAt_eq_some_iff.mp stored
  have inside : found.1 < document.length := (List.getElem?_eq_some_iff.mp entry).1
  have kept : division.reduced[found.1]? = some (.type (division.divided found).2) := by
    by_cases here : found.1 = division.position
    · rw [reduced, here, List.getElem?_set_self division.bound]
      simp [divided, here]
    · rw [reduced, List.getElem?_set_ne (Ne.symm here), entry]
      simp [divided, here]
  rw [typeAt_eq_some_iff, result]
  by_cases before : found.1 < division.place
  · rw [divided, moved, if_pos before, List.getElem?_insertIdx_of_lt before, kept]
    rfl
  · have behind : division.place < found.1 + 1 := by omega
    rw [divided, moved, if_neg before, List.getElem?_insertIdx_of_gt behind, Nat.add_sub_cancel, kept]
    rfl

/-- The document with the type in two parts has the extension, and what stood in the document before. -/
theorem typeAt_result_cases {index : Nat} {other : TypeDefinition}
    (stored : typeAt? division.result index = some other) :
    other = division.extension ∨ ∃ found : Nat × TypeDefinition,
      typeAt? document found.1 = some found.2 ∧ division.divided found = (index, other) := by
  have there : ∀ place, division.reduced[place]? = some (.type other) → division.moved place = index →
      ∃ found : Nat × TypeDefinition,
        typeAt? document found.1 = some found.2 ∧ division.divided found = (index, other) := by
    intro place entry moves
    by_cases here : place = division.position
    · subst here
      rw [reduced, List.getElem?_set_self division.bound] at entry
      cases entry
      exact ⟨(division.position, division.definition), division.stored, by simp [divided, moves]⟩
    · rw [reduced, List.getElem?_set_ne (Ne.symm here)] at entry
      exact ⟨(place, other), typeAt_eq_some_iff.mpr entry, by simp [divided, here, moves]⟩
  rw [typeAt_eq_some_iff, result] at stored
  rcases Nat.lt_trichotomy index division.place with before | same | behind
  · rw [List.getElem?_insertIdx_of_lt before] at stored
    exact .inr (there index stored (by simp [moved, before]))
  · subst same
    rw [List.getElem?_insertIdx_self, if_pos (by rw [reduced_length]; exact division.inside)] at stored
    cases stored
    exact .inl rfl
  · rw [List.getElem?_insertIdx_of_gt behind] at stored
    refine .inr (there (index - 1) stored ?_)
    rw [moved, if_neg (by omega)]
    omega

/-- A want that fields have no part in and that the extension does not fit finds the same type. -/
theorem isFirst_divided
    (wants : ∀ found, typeAt? document found.1 = some found.2 →
      (wanted (division.divided found).2 ↔ wanted found.2))
    (unfit : ¬ wanted division.extension) (isFirst : IsFirst document wanted found) :
    IsFirst division.result wanted (division.divided found) where
  stored := division.typeAt_result isFirst.stored
  fits := (wants found isFirst.stored).mpr isFirst.fits
  first := by
    intro index before other stored
    rcases division.typeAt_result_cases stored with rfl | ⟨earlier, storedBefore, same⟩
    · exact unfit
    · have place : division.moved earlier.1 = index := congrArg Prod.fst same
      have type : (division.divided earlier).2 = other := congrArg Prod.snd same
      rw [← type, wants earlier storedBefore]
      exact isFirst.first earlier.1 (division.moved_strictMono (place ▸ before)) _ storedBefore

private theorem look_result (look : Document → Option (Nat × TypeDefinition))
    (hits : ∀ document found, look document = some found ↔ IsFirst document wanted found)
    (misses : ∀ document, look document = none ↔
      ∀ definition, .type definition ∈ document → ¬ wanted definition)
    (wants : ∀ found, typeAt? document found.1 = some found.2 →
      (wanted (division.divided found).2 ↔ wanted found.2))
    (unfit : ¬ wanted division.extension) :
    look division.result = (look document).map division.divided := by
  cases looked : look document with
  | some found => exact (hits _ _).mpr (division.isFirst_divided wants unfit ((hits _ _).mp looked))
  | none =>
    refine (misses _).mpr fun other member fits => ?_
    obtain ⟨index, entry⟩ := List.mem_iff_getElem?.mp member
    rcases division.typeAt_result_cases (typeAt_eq_some_iff.mpr entry) with rfl | ⟨found, stored, same⟩
    · exact unfit fits
    · have type : (division.divided found).2 = other := congrArg Prod.snd same
      rw [← type, wants found stored] at fits
      exact (misses _).mp looked found.2 (List.mem_of_getElem? (typeAt_eq_some_iff.mp stored)) fits

/-- References lead to the same types. -/
theorem findType_result {scope : LookupScope} (excludes : scope.excludeExtensions = true) :
    findType? division.result name scope = (findType? document name scope).map division.divided := by
  refine division.look_result (findType? · name scope) (fun _ _ => findType_eq_some_iff)
    (fun _ => findType_eq_none_iff) (fun found stored => ?_) fun fits => ?_
  · obtain ⟨kind, extending, named, -⟩ := division.divided_shape stored
    simp only [Admitted, LookupScope.admits, kind, extending, named]
  · have admitted := fits.2
    simp [LookupScope.admits, extension, extensionOf, excludes] at admitted

/-- Objects are found as before, and so are extensions of types of other names. -/
theorem findObject_result {isExtension : Bool}
    (other : isExtension = true → name ≠ division.definition.name) :
    findObject? division.result name isExtension
      = (findObject? document name isExtension).map division.divided := by
  refine division.look_result (findObject? · name isExtension) (fun _ _ => findObject_eq_some_iff)
    (fun _ => findObject_eq_none_iff) (fun found stored => ?_) fun fits => ?_
  · obtain ⟨kind, extending, named, -⟩ := division.divided_shape stored
    simp only [ObjectNamed, kind, extending, named]
  · exact other fits.2.2.symm fits.2.1.symm

theorem findObject_definition :
    findObject? document division.definition.name false
      = some (division.position, division.definition) :=
  findObject_eq_some_iff.mpr
    (division.isFirst.narrow (fun _ wants => wants.2) ⟨division.isObject, rfl, division.defines⟩)

theorem result_parts : ∃ front back, division.reduced = front ++ back ∧ front.length = division.place ∧
    division.result = front ++ .type division.extension :: back :=
  List.exists_of_modifyTailIdx (List.cons _) (by rw [reduced_length]; exact division.inside)

/-- What the entries give is the same, if it is for the type with and without the fields behind the cut. -/
theorem flatMap_reduced {β : Type} {gives : Definition → List β}
    (same : gives (.type division.rest) = gives (.type division.definition)) :
    division.reduced.flatMap gives = document.flatMap gives := by
  exact flatMap_set_of_same division.entry same

theorem flatMap_result {β : Type} {gives : Definition → List β}
    (same : gives (.type division.rest) = gives (.type division.definition))
    (nothing : gives (.type division.extension) = []) :
    division.result.flatMap gives = document.flatMap gives := by
  obtain ⟨front, back, parts, -, result⟩ := division.result_parts
  rw [← division.flatMap_reduced same, parts, result, List.flatMap_append, List.flatMap_append,
    List.flatMap_cons, nothing, List.nil_append]

theorem rootName_result (operation : Operation) :
    rootName division.result operation = rootName document operation := by
  rw [rootName, rootName, division.flatMap_result rfl rfl]

theorem extensionFields_rest :
    extensionFields name (.type division.rest) = extensionFields name (.type division.definition) := by
  rw [extensionFields_eq_nil fun fits => ?_, extensionFields_eq_nil fun fits => ?_]
  · exact Bool.false_ne_true (division.defines.symm.trans fits.2.2)
  · exact Bool.false_ne_true (division.defines.symm.trans fits.2.2)

theorem extendedFields_result_of_ne (other : name ≠ division.definition.name) :
    extendedFields division.result name = extendedFields document name :=
  division.flatMap_result division.extensionFields_rest
    (extensionFields_eq_nil fun fits => other fits.2.1.symm)

/-- Nothing ahead of the extension adds fields to the type. -/
theorem unextended_before {front back : Document} (parts : division.reduced = front ++ back)
    (size : front.length = division.place) : extendedFields front division.definition.name = [] := by
  refine List.flatMap_eq_nil_iff.mpr fun entry member => ?_
  cases entry with
  | schema | directive | operation | fragment => rfl
  | type other =>
    refine extensionFields_eq_nil fun fits => ?_
    obtain ⟨index, inFront⟩ := List.mem_iff_getElem?.mp member
    have before : index < front.length := (List.getElem?_eq_some_iff.mp inFront).1
    have entry : division.reduced[index]? = some (.type other) := by
      rw [parts, List.getElem?_append_left before, inFront]
    by_cases here : index = division.position
    · rw [reduced, here, List.getElem?_set_self division.bound] at entry
      cases entry
      exact Bool.false_ne_true (division.defines.symm.trans fits.2.2)
    · rw [reduced, List.getElem?_set_ne (Ne.symm here)] at entry
      refine division.ahead other (List.mem_of_getElem? (i := index) ?_) fits
      rw [List.getElem?_take_of_lt (size ▸ before), entry]

/-- The extensions of the type give the fields behind the cut before all that they gave. -/
theorem extendedFields_result :
    extendedFields division.result division.definition.name
      = division.added ++ extendedFields document division.definition.name := by
  obtain ⟨front, back, parts, size, result⟩ := division.result_parts
  have before := division.unextended_before parts size
  have unreduced : division.reduced.flatMap (extensionFields division.definition.name)
      = document.flatMap (extensionFields division.definition.name) :=
    division.flatMap_reduced division.extensionFields_rest
  have here : extensionFields division.definition.name (.type division.extension) = division.added :=
    extensionFields_eq_fields ⟨rfl, rfl, rfl⟩
  rw [extendedFields] at before
  rw [extendedFields, extendedFields, ← unreduced, parts, result, List.flatMap_append, List.flatMap_append,
    before, List.flatMap_cons, here, List.nil_append, List.nil_append]

/-- The type in two parts has the fields that it had. -/
theorem candidateFields_definition :
    candidateFields division.result (division.divided (division.position, division.definition)).1
        (division.divided (division.position, division.definition)).2
      = candidateFields document division.position division.definition := by
  have moves : division.divided (division.position, division.definition)
      = (division.moved division.position, division.rest) := by simp [divided]
  have stored := division.typeAt_result division.isFirst.stored
  rw [moves] at stored ⊢
  rw [candidateFields_of_definition stored division.defines,
    candidateFields_of_definition division.stored division.defines, division.fields, List.append_assoc]
  exact congrArg (division.own ++ ·) division.extendedFields_result

/-- Types of other names keep their fields. -/
theorem divided_of_ne (stored : typeAt? document found.1 = some found.2)
    (other : found.2.name ≠ division.definition.name) :
    division.divided found = (division.moved found.1, found.2) := by
  have elsewhere : found.1 ≠ division.position := by
    intro here
    rw [here, division.stored] at stored
    exact other (congrArg TypeDefinition.name (Option.some.inj stored).symm)
  simp [divided, elsewhere]

/-- Definitions have the fields that they had, if the first one of its name is meant. -/
theorem candidateFields_result (stored : typeAt? document found.1 = some found.2)
    (isDefinition : found.2.isExtension = false)
    (first : found.2.name = division.definition.name → found = (division.position, division.definition)) :
    candidateFields division.result (division.divided found).1 (division.divided found).2
      = candidateFields document found.1 found.2 := by
  by_cases named : found.2.name = division.definition.name
  · rw [first named]
    exact division.candidateFields_definition
  · have again := division.typeAt_result stored
    rw [division.divided_of_ne stored named] at again ⊢
    rw [candidateFields_of_definition again isDefinition, candidateFields_of_definition stored isDefinition,
      division.extendedFields_result_of_ne named]

/-- The root is found as before. -/
theorem findRoot_result (operation : Operation) :
    findRoot? division.result operation = (findRoot? document operation).map division.divided := by
  simp only [findRoot?, division.rootName_result]
  generalize rootName document operation = name
  have defined : findObject? division.result name false
      = (findObject? document name false).map division.divided :=
    division.findObject_result fun extending => absurd extending Bool.false_ne_true
  by_cases named : name = division.definition.name
  · subst named
    rw [defined, findObject_definition]
    rfl
  · have extended : findObject? division.result name true
        = (findObject? document name true).map division.divided :=
      division.findObject_result fun _ => named
    rw [defined, extended]
    cases findObject? document name false <;> rfl

/-- The root has the fields that it had, also where it is only extended. -/
theorem candidateFields_root {operation : Operation} {root : Nat × TypeDefinition}
    (looked : findRoot? document operation = some root) :
    candidateFields division.result (division.divided root).1 (division.divided root).2
      = candidateFields document root.1 root.2 := by
  by_cases named : rootName document operation = division.definition.name
  · simp only [findRoot?, named, findObject_definition] at looked
    cases looked
    exact division.candidateFields_definition
  · obtain ⟨isExtension, isFirst⟩ := isFirst_of_findRoot looked
    have again : IsFirst division.result (ObjectNamed (rootName document operation) isExtension)
        (division.divided root) := by
      refine findObject_eq_some_iff.mp ?_
      rw [division.findObject_result fun _ => named, findObject_eq_some_iff.mpr isFirst, Option.map_some]
    have other : root.2.name ≠ division.definition.name := by rwa [isFirst.fits.2.1]
    rw [candidateFields_of_object isFirst, candidateFields_of_object again,
      division.extendedFields_result_of_ne named, division.divided_of_ne isFirst.stored other]

end Division

end SelectionGen.Schema

namespace SelectionGen.Projection

open Sdl Schema

namespace Context

variable {document : Document} (division : Division document) (settings otherSettings : Settings)
  {target : Target}

/-- A type that fields lead to, and where it stands once the type is in two parts. -/
def DividedAlike (target other : Target) : Prop :=
  Resolves ⟨settings, document⟩ target ∧ other = division.divided target

/-- A field leads to the same type, or to none in both documents. -/
theorem targets_divided (isRoot : Bool) (field : Field) :
    Option.Rel (DividedAlike division settings)
      (resolvedField ⟨settings, document⟩ isRoot field).target?
      (resolvedField ⟨otherSettings, division.result⟩ isRoot field).target? := by
  have same : (resolvedField ⟨otherSettings, division.result⟩ isRoot field).target?
      = (resolvedField ⟨settings, document⟩ isRoot field).target?.map division.divided := by
    simp only [ResolvedField.target?, resolvedField, resolve?]
    split
    · rfl
    · rw [division.findType_result rfl]
      cases look : findType? document field.type.named (fieldScope isRoot field) with
      | none => rfl
      | some found =>
        have shape := division.divided_shape (findType_eq_some_iff.mp look).stored
        have projectable : (division.divided found).2.isProjectable = found.2.isProjectable := by
          rw [TypeDefinition.isProjectable, TypeDefinition.isProjectable, shape.1]
        simp only [Option.map_some, Option.bind_some, Resolution.projectable?, projectable]
        split <;> rfl
  rw [same]
  cases leads : (resolvedField ⟨settings, document⟩ isRoot field).target? with
  | none => exact .none
  | some target => exact .some ⟨resolves_of_field leads, rfl⟩

/-- A reference by the name of the type leads to the definition that is cut. -/
theorem Resolves.eq_definition (resolves : Resolves ⟨settings, document⟩ target)
    (named : target.2.name = division.definition.name) :
    target = (division.position, division.definition) := by
  have isFirst := findType_eq_some_iff.mp resolves.1
  have object : IsFirst document (Admitted target.name plainScope)
      (division.position, division.definition) := by
    refine division.isFirst.narrow (fun other wants => ?_) ⟨named.symm, ?_⟩
    · refine ⟨wants.1.trans named, ?_⟩
      have admitted := wants.2
      cases kind : other.kind <;> simp_all [plainScope, LookupScope.admits]
    · simp [plainScope, LookupScope.admits, division.isObject, division.defines]
  exact isFirst.unique object

/-- Cutting a type changes nothing that is generated below its root. -/
theorem corresponds_divided (package : settings.clientPackage = otherSettings.clientPackage)
    (allowed : settings.includeFields = otherSettings.includeFields) :
    Corresponds ⟨settings, document⟩ ⟨otherSettings, division.result⟩
      (DividedAlike division settings) where
  package := package
  name := by
    rintro target _ ⟨resolves, rfl⟩
    exact (division.divided_shape resolves.typeAt).2.2.1.symm
  description := by
    rintro target _ ⟨resolves, rfl⟩
    exact (division.divided_shape resolves.typeAt).2.2.2.symm
  fields := by
    rintro target _ ⟨resolves, rfl⟩
    refine fieldsMatch_of_surviving ?_ (targets_divided division settings otherSettings false)
    have candidates := division.candidateFields_result resolves.typeAt resolves.isDefinition
      (resolves.eq_definition division settings)
    have named := (division.divided_shape resolves.typeAt).2.2.1
    simp only [survivingFields, mergedFields, candidates, named, filteredFields, includedFields,
      Settings.allowed?, allowed]

theorem roots_divided (allowed : settings.includeFields = otherSettings.includeFields)
    (operation : Operation) :
    Option.Rel (RootsMatch ⟨settings, document⟩ ⟨otherSettings, division.result⟩
        (DividedAlike division settings))
      (findRoot? document operation) (findRoot? division.result operation) := by
  rw [division.findRoot_result]
  cases found : findRoot? document operation with
  | none => exact .none
  | some root =>
    obtain ⟨isExtension, isFirst⟩ := isFirst_of_findRoot found
    obtain ⟨-, -, named, described⟩ := division.divided_shape isFirst.stored
    refine .some ⟨named.symm, described.symm,
      fieldsMatch_of_surviving ?_ (targets_divided division settings otherSettings true)⟩
    simp only [survivingFields, mergedFields, division.candidateFields_root found, named, filteredFields,
      includedFields, Settings.allowed?, allowed]

end Context

end SelectionGen.Projection

namespace SelectionGen.Generation

open Sdl Schema Projection

/-- **A type may be extended instead of defined at once.** Where an object type is the first to be defined under
its name, a run gives the same on a schema that has the type in two parts, whichever fields go to the
extension and wherever it stands ahead of the others: the same classes in the same order, or the same
clash. So it is for the root, and for a type that has nothing left, and it does not matter which files or
texts hold the parts. -/
theorem outcome_of_division {document : Document} (division : Division document) (settings : Settings) :
    (ofGivenDocument settings [] document).outcome
      = (ofGivenDocument settings [] division.result).outcome ∧
    ∀ tree current otherTree otherCurrent paths texts,
      (load tree current settings.schemaPaths settings.schemas).outcome = .ok document →
      (load otherTree otherCurrent paths texts).outcome = .ok division.result →
      (ofSettings settings [] tree current).outcome
        = (ofSettings { settings with schemaPaths := paths, schemas := texts } []
            otherTree otherCurrent).outcome := by
  have outcomes (paths texts) : (ofGivenDocument settings [] document).outcome
      = (ofGivenDocument { settings with schemaPaths := paths, schemas := texts } []
          division.result).outcome :=
    let other : Settings := { settings with schemaPaths := paths, schemas := texts }
    Context.outcome_eq_of_corresponds (Context.corresponds_divided division settings other rfl rfl) rfl rfl
      (Context.roots_divided division settings other rfl .query)
  refine ⟨outcomes settings.schemaPaths settings.schemas, ?_⟩
  intro tree current otherTree otherCurrent paths texts loaded loadedOther
  rw [outcome_of_loaded loaded, outcomes paths texts, outcome_of_loaded loadedOther]

end SelectionGen.Generation

/-! The library, whose root leaves all its fields to an extension behind the other types. -/
namespace SelectionGen.Projection.Library

open Sdl Schema

def dividedText : String :=
  "type Query type Book { title: String! author: Author } " ++
    "interface Author { books(first: Int): [Book] publisher: Publisher @skipcodegen } " ++
    "type Publisher extend type Query { books: [Book!]! }"

/-- The root without fields, which stand at the end of the document. -/
def emptyRoot : Division schema where
  position := 0
  definition := query
  own := []
  added := query.fields
  place := 4
  fields := rfl
  isObject := rfl
  isFirst := ⟨rfl, ⟨rfl, rfl⟩, nofun⟩
  inside := by decide
  ahead := by
    intro other member fits
    simp only [schema, List.take_succ_cons, List.take_zero, List.mem_cons, List.not_mem_nil, or_false,
      Definition.type.injEq] at member
    rcases member with rfl | rfl | rfl | rfl <;> cases fits.2.2

end SelectionGen.Projection.Library

namespace SelectionGen.Generation

open Schema Projection.Library

/-- Read from the text where it is extended, the root leads to the classes that it leads to when it is defined
at once. -/
theorem library_divided :
    Sdl.Document.read dividedText = .ok emptyRoot.result ∧
    (ofGivenDocument {} [] schema).outcome = (ofGivenDocument {} [] emptyRoot.result).outcome :=
  ⟨by decide +kernel, (outcome_of_division emptyRoot {}).1⟩

end SelectionGen.Generation
