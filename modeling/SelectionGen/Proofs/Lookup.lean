import SelectionGen.Schema.Lookup
import SelectionGen.Sdl.Reader

/-! What looking a definition up finds: the first entry of the document that is wanted. Every lookup is one of
these, for another want, so that what holds of first entries is shown once. -/
namespace SelectionGen.Schema

open Sdl

/-- A type that is wanted, with nothing wanted before it in the document. -/
structure IsFirst (document : Document) (wanted : TypeDefinition → Prop)
    (found : Nat × TypeDefinition) : Prop where
  stored : typeAt? document found.1 = some found.2
  fits : wanted found.2
  first : ∀ position < found.1, ∀ other, typeAt? document position = some other → ¬ wanted other

variable {document : Document} {wanted : TypeDefinition → Prop} {found other : Nat × TypeDefinition}

theorem typeAt_eq_some_iff {position : Nat} {definition : TypeDefinition} :
    typeAt? document position = some definition ↔ document[position]? = some (.type definition) := by
  rw [typeAt?, Option.bind_eq_some_iff]
  constructor
  · rintro ⟨entry, stored, shape⟩
    cases entry <;> simp_all [Definition.type?]
  · intro stored
    exact ⟨_, stored, rfl⟩

/-- The types that a document defines or extends. -/
def types (document : Document) : List TypeDefinition := document.filterMap Definition.type?

theorem mem_types {definition : TypeDefinition} :
    definition ∈ types document ↔ .type definition ∈ document := by
  rw [types, List.mem_filterMap]
  constructor
  · rintro ⟨entry, member, shape⟩
    cases entry <;> simp_all [Definition.type?]
  · intro member
    exact ⟨_, member, rfl⟩

theorem IsFirst.unique (isFirst : IsFirst document wanted found)
    (alsoFirst : IsFirst document wanted other) : found = other := by
  rcases Nat.lt_trichotomy found.1 other.1 with before | same | behind
  · exact absurd isFirst.fits (alsoFirst.first _ before _ isFirst.stored)
  · have stored := isFirst.stored
    rw [same, alsoFirst.stored] at stored
    exact Prod.ext same (Option.some.inj stored).symm
  · exact absurd alsoFirst.fits (isFirst.first _ behind _ alsoFirst.stored)

/-- Looking for one thing finds what looking for more found, if that is still wanted. -/
theorem IsFirst.narrow {narrower : TypeDefinition → Prop} (isFirst : IsFirst document wanted found)
    (weaker : ∀ definition, narrower definition → wanted definition) (fits : narrower found.2) :
    IsFirst document narrower found where
  stored := isFirst.stored
  fits := fits
  first := fun position before other stored wants =>
    isFirst.first position before other stored (weaker other wants)

theorem IsFirst.member (isFirst : IsFirst document wanted found) : .type found.2 ∈ document :=
  List.mem_of_getElem? (typeAt_eq_some_iff.mp isFirst.stored)

/-- The document around an entry: what stands before it, and what stands behind it. -/
theorem split_of_typeAt {position : Nat} {definition : TypeDefinition}
    (stored : typeAt? document position = some definition) :
    ∃ front back, document = front ++ .type definition :: back ∧ front.length = position := by
  obtain ⟨bound, same⟩ := List.getElem?_eq_some_iff.mp (typeAt_eq_some_iff.mp stored)
  refine ⟨document.take position, document.drop (position + 1), ?_, by simp; omega⟩
  rw [← same, List.getElem_cons_drop, List.take_append_drop]

/-- Nothing that stands before a first entry is wanted. -/
theorem IsFirst.split (isFirst : IsFirst document wanted found) :
    ∃ front back, document = front ++ .type found.2 :: back ∧ front.length = found.1 ∧
      ∀ other, .type other ∈ front → ¬ wanted other := by
  obtain ⟨front, back, rfl, size⟩ := split_of_typeAt isFirst.stored
  refine ⟨front, back, rfl, size, fun other member => ?_⟩
  obtain ⟨position, stored⟩ := List.mem_iff_getElem?.mp member
  have before : position < front.length := (List.getElem?_eq_some_iff.mp stored).1
  refine isFirst.first position (size ▸ before) other (typeAt_eq_some_iff.mpr ?_)
  rwa [List.getElem?_append_left before]

section Search

/-- The form that all lookups have. -/
private abbrev search (document : Document) (wanted : TypeDefinition → Prop) [DecidablePred wanted] :
    Option (Nat × TypeDefinition) :=
  document.zipIdx.findSome? fun (definition, position) =>
    match definition.type? with
    | some found => if wanted found then some (position, found) else none
    | none => none

variable [DecidablePred wanted]

private theorem isFirst_of_search (hit : search document wanted = some found) :
    IsFirst document wanted found := by
  obtain ⟨front, ⟨entry, position⟩, back, split, fits, missed⟩ := List.findSome?_eq_some_iff.mp hit
  have here : document.zipIdx[front.length]? = some (entry, position) := by simp [split]
  obtain ⟨entry, stored, rfl, rfl⟩ : ∃ stored, document[front.length]? = some stored ∧
      stored = entry ∧ front.length = position := by simpa [List.getElem?_zipIdx] using here
  cases entry with
  | type definition =>
    simp only [Definition.type?, Option.ite_none_right_eq_some, Option.some.injEq] at fits
    obtain ⟨wants, rfl⟩ := fits
    refine ⟨typeAt_eq_some_iff.mpr stored, wants, fun place before other storedOther wantsOther => ?_⟩
    have inFront : front[place]? = some (.type other, place) := by
      have listed : document.zipIdx[place]? = some (.type other, place) := by
        simp [List.getElem?_zipIdx, typeAt_eq_some_iff.mp storedOther]
      rwa [split, List.getElem?_append_left before] at listed
    have skipped := missed _ (List.mem_of_getElem? inFront)
    simp [Definition.type?, wantsOther] at skipped
  | schema | directive | operation | fragment => simp [Definition.type?] at fits

private theorem search_of_isFirst (isFirst : IsFirst document wanted found) :
    search document wanted = some found := by
  cases looked : search document wanted with
  | some other => rw [(isFirst_of_search looked).unique isFirst]
  | none =>
    have stored := typeAt_eq_some_iff.mp isFirst.stored
    have listed : (Definition.type found.2, found.1) ∈ document.zipIdx :=
      List.mk_mem_zipIdx_iff_getElem?.mpr stored
    have missed := List.findSome?_eq_none_iff.mp looked _ listed
    simp [Definition.type?, isFirst.fits] at missed

private theorem search_eq_some_iff (wanted : TypeDefinition → Prop) [DecidablePred wanted] :
    search document wanted = some found ↔ IsFirst document wanted found :=
  ⟨isFirst_of_search, search_of_isFirst⟩

private theorem search_eq_none_iff (wanted : TypeDefinition → Prop) [DecidablePred wanted] :
    search document wanted = none ↔
      ∀ definition, .type definition ∈ document → ¬ wanted definition := by
  constructor
  · intro looked definition member wants
    obtain ⟨position, stored⟩ := List.mem_iff_getElem?.mp member
    have listed : (Definition.type definition, position) ∈ document.zipIdx :=
      List.mk_mem_zipIdx_iff_getElem?.mpr stored
    have missed := List.findSome?_eq_none_iff.mp looked _ listed
    simp [Definition.type?, wants] at missed
  · intro unwanted
    cases looked : search document wanted with
    | none => rfl
    | some found =>
      have isFirst := isFirst_of_search looked
      exact absurd isFirst.fits (unwanted _ isFirst.member)

/-- Which definition a lookup finds is settled by the types of a document and their order. -/
private theorem search_types (document : Document) (wanted : TypeDefinition → Prop) [DecidablePred wanted] :
    (search document wanted).map Prod.snd
      = (types document).find? fun definition => decide (wanted definition) := by
  cases looked : search document wanted with
  | some found =>
    obtain ⟨front, back, rfl, -, missed⟩ := (isFirst_of_search looked).split
    have unwanted : (types front).find? (fun definition => decide (wanted definition)) = none := by
      simp only [List.find?_eq_none, mem_types, decide_eq_true_eq]
      exact missed
    have split : types (front ++ .type found.2 :: back) = types front ++ found.2 :: types back := by
      simp [types, Definition.type?]
    simp [split, unwanted, (isFirst_of_search looked).fits]
  | none =>
    have unwanted := (search_eq_none_iff wanted).mp looked
    symm
    simpa only [Option.map_none, List.find?_eq_none, mem_types, decide_eq_true_eq] using unwanted

end Search

/-- What a lookup of types wants. -/
def Admitted (name : Name) (scope : LookupScope) (definition : TypeDefinition) : Prop :=
  definition.name = name ∧ scope.admits definition = true

/-- What a lookup of objects wants: a definition of the name, or an extension. -/
def ObjectNamed (name : Name) (isExtension : Bool) (definition : TypeDefinition) : Prop :=
  definition.kind = .object ∧ definition.name = name ∧ definition.isExtension = isExtension

instance {name : Name} {scope : LookupScope} : DecidablePred (Admitted name scope) :=
  fun definition => inferInstanceAs
    (Decidable (definition.name = name ∧ scope.admits definition = true))

instance {name : Name} {isExtension : Bool} : DecidablePred (ObjectNamed name isExtension) :=
  fun definition => inferInstanceAs
    (Decidable (definition.kind = .object ∧ definition.name = name ∧ definition.isExtension = isExtension))

theorem findType_eq_some_iff {name : Name} {scope : LookupScope} :
    findType? document name scope = some found ↔ IsFirst document (Admitted name scope) found :=
  search_eq_some_iff (fun found => found.name = name ∧ scope.admits found = true)

theorem findType_eq_none_iff {name : Name} {scope : LookupScope} :
    findType? document name scope = none ↔
      ∀ definition, .type definition ∈ document → ¬ Admitted name scope definition :=
  search_eq_none_iff (fun found => found.name = name ∧ scope.admits found = true)

theorem findObject_eq_some_iff {name : Name} {isExtension : Bool} :
    findObject? document name isExtension = some found ↔
      IsFirst document (ObjectNamed name isExtension) found :=
  search_eq_some_iff (fun found =>
    found.kind = .object ∧ found.name = name ∧ found.isExtension = isExtension)

theorem findObject_eq_none_iff {name : Name} {isExtension : Bool} :
    findObject? document name isExtension = none ↔
      ∀ definition, .type definition ∈ document → ¬ ObjectNamed name isExtension definition :=
  search_eq_none_iff (fun found =>
    found.kind = .object ∧ found.name = name ∧ found.isExtension = isExtension)

theorem findType_types (document : Document) (name : Name) (scope : LookupScope) :
    (findType? document name scope).map Prod.snd
      = (types document).find? fun definition => decide (Admitted name scope definition) :=
  search_types document fun found => found.name = name ∧ scope.admits found = true

theorem findObject_types (document : Document) (name : Name) (isExtension : Bool) :
    (findObject? document name isExtension).map Prod.snd
      = (types document).find? fun definition => decide (ObjectNamed name isExtension definition) :=
  search_types document fun found =>
    found.kind = .object ∧ found.name = name ∧ found.isExtension = isExtension

/-- A root is the first definition of an object, or the first of its extensions. -/
theorem isFirst_of_findRoot {operation : Operation} (looked : findRoot? document operation = some found) :
    ∃ isExtension, IsFirst document (ObjectNamed (rootName document operation) isExtension) found := by
  simp only [findRoot?] at looked
  cases defined : findObject? document (rootName document operation) false with
  | some root =>
    rw [defined] at looked
    cases looked
    exact ⟨false, findObject_eq_some_iff.mp defined⟩
  | none =>
    rw [defined] at looked
    exact ⟨true, findObject_eq_some_iff.mp looked⟩

/-! Types changed where they stand. What lookups go by is kept, so each lookup finds the changed type where it
found the type before. -/

/-- The entry with its type changed, if it is a type. -/
def mapEntry (change : TypeDefinition → TypeDefinition) : Definition → Definition
  | .type definition => .type (change definition)
  | other => other

/-- The document with all its types changed. -/
def mapTypes (change : TypeDefinition → TypeDefinition) (document : Document) : Document :=
  document.map (mapEntry change)

/-- A change that neither the kind nor the name of a type has part in, nor whether it is an extension. -/
structure KeepsHeads (change : TypeDefinition → TypeDefinition) : Prop where
  kind : ∀ definition, (change definition).kind = definition.kind
  isExtension : ∀ definition, (change definition).isExtension = definition.isExtension
  name : ∀ definition, (change definition).name = definition.name

section Changed

variable {change : TypeDefinition → TypeDefinition} {position : Nat}

theorem typeAt_mapTypes :
    typeAt? (mapTypes change document) position = (typeAt? document position).map change := by
  rw [typeAt?, typeAt?, mapTypes, List.getElem?_map]
  cases document[position]? with
  | none => rfl
  | some entry => cases entry <;> rfl

theorem mem_mapTypes {changed : TypeDefinition} :
    .type changed ∈ mapTypes change document ↔
      ∃ definition, .type definition ∈ document ∧ change definition = changed := by
  rw [mapTypes, List.mem_map]
  constructor
  · rintro ⟨entry, member, same⟩
    cases entry with
    | type definition => exact ⟨definition, member, Definition.type.inj same⟩
    | schema | directive | operation | fragment => cases same
  · rintro ⟨definition, member, rfl⟩
    exact ⟨_, member, rfl⟩

/-- A want that the change has no part in finds the same entry, changed. -/
theorem IsFirst.mapTypes (wants : ∀ definition, wanted (change definition) ↔ wanted definition)
    (isFirst : IsFirst document wanted found) :
    IsFirst (mapTypes change document) wanted (found.map id change) where
  stored := by
    rw [Prod.map_fst, id, typeAt_mapTypes, isFirst.stored]
    rfl
  fits := (wants found.2).mpr isFirst.fits
  first := by
    intro position before other stored
    rw [typeAt_mapTypes] at stored
    obtain ⟨definition, storedBefore, rfl⟩ := Option.map_eq_some_iff.mp stored
    exact fun fits => isFirst.first position before definition storedBefore ((wants definition).mp fits)

private theorem look_mapTypes (look : Document → Option (Nat × TypeDefinition))
    (hits : ∀ document found, look document = some found ↔ IsFirst document wanted found)
    (misses : ∀ document, look document = none ↔
      ∀ definition, .type definition ∈ document → ¬ wanted definition)
    (wants : ∀ definition, wanted (change definition) ↔ wanted definition) :
    look (mapTypes change document) = (look document).map (Prod.map id change) := by
  cases looked : look document with
  | some found => exact (hits _ _).mpr (((hits _ _).mp looked).mapTypes wants)
  | none =>
    refine (misses _).mpr fun changed member fits => ?_
    obtain ⟨definition, inDocument, rfl⟩ := mem_mapTypes.mp member
    exact (misses _).mp looked definition inDocument ((wants definition).mp fits)

variable (keeps : KeepsHeads change)

include keeps

theorem findType_mapTypes (name : Name) (scope : LookupScope) :
    findType? (mapTypes change document) name scope
      = (findType? document name scope).map (Prod.map id change) := by
  refine look_mapTypes (findType? · name scope)
    (fun _ _ => findType_eq_some_iff) (fun _ => findType_eq_none_iff) fun definition => ?_
  simp only [Admitted, LookupScope.admits, keeps.kind, keeps.isExtension, keeps.name]

theorem findObject_mapTypes (name : Name) (isExtension : Bool) :
    findObject? (mapTypes change document) name isExtension
      = (findObject? document name isExtension).map (Prod.map id change) := by
  refine look_mapTypes (findObject? · name isExtension)
    (fun _ _ => findObject_eq_some_iff) (fun _ => findObject_eq_none_iff) fun definition => ?_
  simp only [ObjectNamed, keeps.kind, keeps.isExtension, keeps.name]

omit keeps in
theorem rootName_mapTypes (operation : Operation) :
    rootName (mapTypes change document) operation = rootName document operation := by
  have roots : ∀ entry : Definition, (mapEntry change entry).roots = entry.roots := by
    intro entry
    cases entry <;> rfl
  rw [rootName, rootName, mapTypes, List.flatMap_map]
  simp only [roots]

theorem findRoot_mapTypes (operation : Operation) :
    findRoot? (mapTypes change document) operation
      = (findRoot? document operation).map (Prod.map id change) := by
  simp only [findRoot?, rootName_mapTypes, findObject_mapTypes keeps]
  cases findObject? document (rootName document operation) false <;> rfl

end Changed

/-! What a reference is to lead to, said without regard to how it is looked up. The lookup keeps to it but for one
thing: extensions of scalars have no part in leaving extensions out. -/

/-- A type that a reference may lead to: one of its name, a scalar only when scalars are looked for, and no
extension of any kind when extensions are left out. -/
structure Sought (name : Name) (scope : LookupScope) (definition : TypeDefinition) : Prop where
  named : definition.name = name
  scalars : definition.kind = .scalar → scope.includeScalars = true
  extensions : definition.isExtension = true → scope.excludeExtensions = false

/-- A reference to a scalar that needs no definition, when such scalars are looked for. -/
def NeedsNoDefinition (reference : TypeRef) (scope : LookupScope) : Prop :=
  scope.includeBuiltins = true ∧ reference.named.text ∈ builtinScalars

/-- What a reference is to lead to in a document: a scalar without a definition, the first type that is sought, or
nothing if no type is. -/
inductive Answers (document : Document) (reference : TypeRef) (scope : LookupScope) : Option Resolution → Prop
  | builtin (builtin : NeedsNoDefinition reference scope) :
      Answers document reference scope (some (.builtin reference.named))
  | declared {position : Nat} {definition : TypeDefinition} (other : ¬ NeedsNoDefinition reference scope)
      (first : IsFirst document (Sought reference.named scope) (position, definition)) :
      Answers document reference scope (some (.declared position definition))
  | missing (other : ¬ NeedsNoDefinition reference scope)
      (unsought : ∀ definition, .type definition ∈ document → ¬ Sought reference.named scope definition) :
      Answers document reference scope none

/-- An extension of a scalar in the way: scalars are looked for and extensions left out, and the first entry of the
name that is a scalar or a definition is an extension. -/
structure ScalarExtensionFirst (document : Document) (reference : TypeRef) (scope : LookupScope) : Prop where
  other : ¬ NeedsNoDefinition reference scope
  excludes : scope.excludeExtensions = true
  includes : scope.includeScalars = true
  inTheWay : ∃ found, IsFirst document (fun definition => definition.name = reference.named ∧
    (definition.kind = .scalar ∨ definition.isExtension = false)) found ∧ found.2.isExtension = true

section Resolving

variable {reference : TypeRef} {scope : LookupScope}

theorem admitted_iff {name : Name} {definition : TypeDefinition} :
    Admitted name scope definition ↔ definition.name = name ∧
      (definition.kind = .scalar → scope.includeScalars = true) ∧
      (definition.kind ≠ .scalar → definition.isExtension = true → scope.excludeExtensions = false) := by
  rw [Admitted, LookupScope.admits]
  by_cases scalar : definition.kind = .scalar <;> simp [scalar, Decidable.or_iff_not_imp_left]

theorem Sought.admitted {name : Name} {definition : TypeDefinition} (sought : Sought name scope definition) :
    Admitted name scope definition :=
  admitted_iff.mpr ⟨sought.named, sought.scalars, fun _ => sought.extensions⟩

theorem resolve_of_needsNoDefinition (builtin : NeedsNoDefinition reference scope) :
    resolve? document reference scope = some (.builtin reference.named) := by
  rw [resolve?, if_pos]
  simpa [isBuiltinScalar, NeedsNoDefinition] using builtin

theorem resolve_of_not_needsNoDefinition (other : ¬ NeedsNoDefinition reference scope) :
    resolve? document reference scope
      = (findType? document reference.named scope).map fun (position, found) => .declared position found := by
  rw [resolve?, if_neg]
  simpa [NeedsNoDefinition, isBuiltinScalar] using other

/-- A reference has one answer. -/
theorem Answers.unique {answer another : Option Resolution} (answers : Answers document reference scope answer)
    (alsoAnswers : Answers document reference scope another) : answer = another := by
  cases answers with
  | builtin builtin =>
    cases alsoAnswers with
    | builtin => rfl
    | declared other => exact absurd builtin other
    | missing other => exact absurd builtin other
  | declared other first =>
    cases alsoAnswers with
    | builtin builtin => exact absurd builtin other
    | declared _ alsoFirst =>
      cases first.unique alsoFirst
      rfl
    | missing _ unsought => exact absurd first.fits (unsought _ first.member)
  | missing other unsought =>
    cases alsoAnswers with
    | builtin builtin => exact absurd builtin other
    | declared _ first => exact absurd first.fits (unsought _ first.member)
    | missing => rfl

/-- An admitted type is sought, unless it is an extension of a scalar that is to be left out. -/
theorem sought_of_admitted {name : Name} {definition : TypeDefinition} (admitted : Admitted name scope definition)
    (kept : ¬ (scope.excludeExtensions = true ∧ definition.isExtension = true)) :
    Sought name scope definition where
  named := admitted.1
  scalars := (admitted_iff.mp admitted).2.1
  extensions := fun extends_ => by simpa [extends_] using kept

/-- With scalars looked for and extensions left out, scalars are admitted, and so are other definitions. -/
theorem admitted_iff_of_flags {name : Name} {definition : TypeDefinition} (excludes : scope.excludeExtensions = true)
    (includes : scope.includeScalars = true) :
    Admitted name scope definition ↔
      definition.name = name ∧ (definition.kind = .scalar ∨ definition.isExtension = false) := by
  rw [admitted_iff, excludes, includes]
  simp [Decidable.or_iff_not_imp_left]

/-- An extension that should be left out is found exactly when it is a scalar's and stands in the way. -/
theorem finds_extension_iff :
    (∃ position definition, resolve? document reference scope = some (.declared position definition) ∧
        definition.isExtension = true ∧ scope.excludeExtensions = true)
      ↔ ScalarExtensionFirst document reference scope := by
  constructor
  · rintro ⟨position, definition, resolved, extended, excludes⟩
    have other : ¬ NeedsNoDefinition reference scope := fun builtin => by
      simp [resolve_of_needsNoDefinition builtin] at resolved
    rw [resolve_of_not_needsNoDefinition other, Option.map_eq_some_iff] at resolved
    obtain ⟨found, looked, same⟩ := resolved
    cases same
    have isFirst := findType_eq_some_iff.mp looked
    have facts := admitted_iff.mp isFirst.fits
    have scalar : found.2.kind = .scalar := by
      refine Decidable.byContradiction fun isOther => ?_
      have kept := facts.2.2 isOther extended
      simp [excludes] at kept
    have includes := facts.2.1 scalar
    refine ⟨other, excludes, includes, found, ?_, extended⟩
    exact isFirst.narrow (fun _ => (admitted_iff_of_flags excludes includes).mpr)
      ((admitted_iff_of_flags excludes includes).mp isFirst.fits)
  · rintro ⟨other, excludes, includes, found, first, extended⟩
    have isFirst : IsFirst document (Admitted reference.named scope) found :=
      first.narrow (fun _ => (admitted_iff_of_flags excludes includes).mp)
        ((admitted_iff_of_flags excludes includes).mpr first.fits)
    refine ⟨found.1, found.2, ?_, extended, excludes⟩
    rw [resolve_of_not_needsNoDefinition other, findType_eq_some_iff.mpr isFirst]
    rfl

/-- Where no extension of a scalar is in the way, a reference leads to what it is to lead to. -/
theorem answers_resolve (clear : ¬ ScalarExtensionFirst document reference scope) :
    Answers document reference scope (resolve? document reference scope) := by
  by_cases builtin : NeedsNoDefinition reference scope
  · rw [resolve_of_needsNoDefinition builtin]
    exact .builtin builtin
  cases looked : findType? document reference.named scope with
  | none =>
    rw [resolve_of_not_needsNoDefinition builtin, looked]
    exact .missing builtin fun definition member sought =>
      findType_eq_none_iff.mp looked definition member sought.admitted
  | some found =>
    have resolved : resolve? document reference scope = some (.declared found.1 found.2) := by
      rw [resolve_of_not_needsNoDefinition builtin, looked]
      rfl
    have isFirst := findType_eq_some_iff.mp looked
    have sought : Sought reference.named scope found.2 := sought_of_admitted isFirst.fits
      fun ⟨excludes, extended⟩ => clear (finds_extension_iff.mp ⟨_, _, resolved, extended, excludes⟩)
    rw [resolved]
    exact .declared builtin (isFirst.narrow (fun _ other => other.admitted) sought)

/-- **What a reference leads to.** In every document, through every list and non-null around a name, and for every
scope, a reference leads to what it is to lead to, and to nothing else, exactly unless an extension of a scalar is
in the way. That extension is then found although extensions are left out; no other extension ever is. -/
theorem resolve_eq_iff_answers (document : Document) (reference : TypeRef) (scope : LookupScope) :
    ((∀ answer, Answers document reference scope answer ↔ resolve? document reference scope = answer) ↔
        ¬ ScalarExtensionFirst document reference scope) ∧
      ((∃ position definition, resolve? document reference scope = some (.declared position definition) ∧
          definition.isExtension = true ∧ scope.excludeExtensions = true)
        ↔ ScalarExtensionFirst document reference scope) := by
  refine ⟨⟨fun meets found => ?_, fun clear answer => ?_⟩, finds_extension_iff⟩
  · obtain ⟨position, definition, resolved, extended, excludes⟩ := finds_extension_iff.mpr found
    have answers := (meets _).mpr rfl
    rw [resolved] at answers
    cases answers with
    | declared other first => exact absurd (first.fits.extensions extended) (by simp [excludes])
  · constructor
    · exact (answers_resolve clear).unique
    · rintro rfl
      exact answers_resolve clear

end Resolving

namespace Dates

def text : String := "extend scalar Date @tag scalar Date"

def extension : TypeDefinition where
  kind := .scalar
  isExtension := true
  name := ⟨"Date", by decide +kernel⟩

def date : TypeDefinition where
  kind := .scalar
  name := extension.name

def schema : Document := [.type extension, .type date]

def reference : TypeRef := ⟨[.nonNull], date.name⟩

def scope : LookupScope where
  excludeExtensions := true
  includeScalars := true

/-- The definition is the first entry of its name that is no extension. -/
theorem answers_date : Answers schema reference scope (some (.declared 1 date)) := by
  refine .declared (fun builtin => absurd builtin.1 Bool.false_ne_true) ?_
  refine ⟨rfl, ⟨rfl, fun _ => rfl, fun extended => absurd extended Bool.false_ne_true⟩, ?_⟩
  intro position before other stored sought
  obtain rfl : position = 0 := Nat.lt_one_iff.mp before
  obtain rfl : extension = other := Option.some.inj stored
  exact absurd (sought.extensions rfl) (by decide)

end Dates

/-- With scalars looked for and extensions left out, a date leads to the extension in front, where it is to lead
to the definition. -/
theorem date_leads_to_extension :
    (Document.read Dates.text).toOption = some Dates.schema ∧
      Answers Dates.schema Dates.reference Dates.scope (some (.declared 1 Dates.date)) ∧
      resolve? Dates.schema Dates.reference Dates.scope = some (.declared 0 Dates.extension) ∧
      ¬ Answers Dates.schema Dates.reference Dates.scope (resolve? Dates.schema Dates.reference Dates.scope) := by
  refine ⟨by decide +kernel, Dates.answers_date, by decide, fun answers => ?_⟩
  exact absurd (Dates.answers_date.unique answers) (by decide)

end SelectionGen.Schema
