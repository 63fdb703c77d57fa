import Mathlib.Data.List.TakeWhile
import SelectionGen.Proofs.Endings
import SelectionGen.Proofs.Recording
import SelectionGen.Proofs.Sources

/-! Restrictions that are given as items. Items of several types may be mixed and come again, and one that is
none ends the reading. What they give is known without the reading: the types in the order in which they
first occur, each with the fields of its items in turn. -/
namespace SelectionGen.CommandLine

/-- What stands in front of the first dot of an item. -/
def typePart (item : String) : String :=
  String.ofList (item.toList.takeWhile fun c => c != '.')

/-- What stands behind the first dot of an item. -/
def fieldPart (item : String) : String :=
  String.ofList ((item.toList.dropWhile fun c => c != '.').drop 1)

/-- An item has a dot, and not in front. -/
def IsItem (item : String) : Prop := '.' ∈ item.toList ∧ item.toList.head? ≠ some '.'

instance : DecidablePred IsItem := fun _ => inferInstanceAs (Decidable (_ ∧ _))

/-- The item for a field of a type, or for the type alone if the field is empty. -/
def itemFor (typeName fieldName : String) : String := typeName ++ "." ++ fieldName

/-- The fields that items name of a type. -/
def fieldsOf (items : List String) (typeName : String) : List String :=
  ((items.filter fun item => typePart item = typeName).map fieldPart).filter fun field => field ≠ ""

/-- The types of items in the order in which they first occur, each with its fields. -/
def restrictionsOf (items : List String) : Includes :=
  (items.map typePart).eraseDups.map fun typeName => (typeName, fieldsOf items typeName)

/-! Single items. -/

section Items

variable {item typeName : String}

private theorem itemFor_toList (typeName fieldName : String) :
    (itemFor typeName fieldName).toList = typeName.toList ++ '.' :: fieldName.toList := by
  simp [itemFor]

private theorem takeWhile_of_dotless {front : List Char} (dotless : '.' ∉ front) (back : List Char) :
    (front ++ '.' :: back).takeWhile (fun c => c != '.') = front ∧
      (front ++ '.' :: back).dropWhile (fun c => c != '.') = '.' :: back := by
  have passes : ∀ c ∈ front, (c != '.') = true := fun c member =>
    bne_iff_ne.mpr fun same => dotless (same ▸ member)
  rw [List.takeWhile_append_of_pos passes, List.dropWhile_append_of_pos passes]
  simp

/-- The first dot divides an item, so fields may have dots and types may not. -/
theorem itemFor_parts (dotless : '.' ∉ typeName.toList) (fieldName : String) :
    typePart (itemFor typeName fieldName) = typeName ∧ fieldPart (itemFor typeName fieldName) = fieldName := by
  obtain ⟨front, back⟩ := takeWhile_of_dotless dotless fieldName.toList
  rw [typePart, fieldPart, itemFor_toList, front, back]
  simp

/-- Items are a type and a field with a dot between them, of which the type is not empty. -/
theorem isItem_iff : IsItem item ↔
    ∃ typeName fieldName, typeName ≠ "" ∧ '.' ∉ typeName.toList ∧ item = itemFor typeName fieldName := by
  constructor
  · rintro ⟨dotted, inside⟩
    obtain ⟨front, back, split, dotless⟩ := List.eq_append_cons_of_mem dotted
    refine ⟨String.ofList front, String.ofList back, ?_, by simpa using dotless, ?_⟩
    · intro nothing
      obtain rfl : front = [] := by simpa using congrArg String.toList nothing
      exact inside (by rw [split]; rfl)
    · rw [← String.toList_inj, split, itemFor_toList, String.toList_ofList, String.toList_ofList]
  · rintro ⟨typeName, fieldName, proper, dotless, rfl⟩
    rw [IsItem, itemFor_toList]
    refine ⟨List.mem_append_right _ List.mem_cons_self, fun leading => ?_⟩
    cases shape : typeName.toList with
    | nil => exact proper (String.toList_eq_nil_iff.mp shape)
    | cons c rest =>
      rw [shape, List.cons_append, List.head?_cons] at leading
      exact dotless (by simp [shape, Option.some.inj leading])

theorem parseInclude_itemFor (proper : typeName ≠ "") (dotless : '.' ∉ typeName.toList) (fieldName : String) :
    parseInclude (itemFor typeName fieldName) = .ok (typeName, fieldName) := by
  obtain ⟨front, _⟩ := takeWhile_of_dotless dotless fieldName.toList
  simp only [parseInclude, itemFor_toList, front, List.drop_left]
  cases shape : typeName.toList with
  | nil => exact absurd (String.toList_eq_nil_iff.mp shape) proper
  | cons c rest => simp [← shape]

/-- What stands before and behind the first dot is read off each item, and nothing else is an item. -/
theorem parseInclude_eq (item : String) : parseInclude item
    = if IsItem item then .ok (typePart item, fieldPart item) else .error (.notTypeAndField item) := by
  by_cases isItem : IsItem item
  · obtain ⟨typeName, fieldName, proper, dotless, rfl⟩ := isItem_iff.mp isItem
    obtain ⟨typed, named⟩ := itemFor_parts dotless fieldName
    rw [if_pos isItem, parseInclude_itemFor proper dotless, typed, named]
  · rw [if_neg isItem]
    simp only [parseInclude]
    split
    next before behind =>
      -- Something stands in front of what stops the reading, and that can only be a dot.
      by_cases dotted : '.' ∈ item.toList
      · refine absurd ⟨dotted, fun leading => ?_⟩ isItem
        obtain ⟨rest, shape⟩ := List.head?_eq_some_iff.mp leading
        simp [shape] at before
      · have whole : item.toList.takeWhile (fun c => c != '.') = item.toList :=
          List.takeWhile_eq_self_iff.mpr fun c member => bne_iff_ne.mpr fun same => dotted (same ▸ member)
        simp [whole] at behind
    · rfl

end Items

/-! Lists of items. -/

section Lists

variable {items : List String} {item typeName : String}

theorem fieldsOf_append (front back : List String) (typeName : String) :
    fieldsOf (front ++ back) typeName = fieldsOf front typeName ++ fieldsOf back typeName := by
  rw [fieldsOf, List.filter_append, List.map_append, List.filter_append, fieldsOf, fieldsOf]

theorem fieldsOf_eq_nil (missing : typeName ∉ items.map typePart) : fieldsOf items typeName = [] := by
  have none : items.filter (fun item => typePart item = typeName) = [] := by
    refine List.filter_eq_nil_iff.mpr fun item member => ?_
    simp only [decide_eq_true_eq]
    rintro rfl
    exact missing (List.mem_map_of_mem member)
  rw [fieldsOf, none]
  rfl

theorem fieldsOf_singleton (item : String) :
    fieldsOf [item] (typePart item) = if fieldPart item = "" then [] else [fieldPart item] := by
  by_cases named : fieldPart item = "" <;> simp [fieldsOf, named]

theorem fieldsOf_concat_of_ne (items : List String) {item : String} (differs : typePart item ≠ typeName) :
    fieldsOf (items ++ [item]) typeName = fieldsOf items typeName := by
  have nothing : fieldsOf [item] typeName = [] := fieldsOf_eq_nil (by simpa using differs.symm)
  rw [fieldsOf_append, nothing, List.append_nil]

/-- One more item adds its field to its type, which gets an entry behind the others if it has none. -/
theorem restrictionsOf_concat (items : List String) (item : String) :
    restrictionsOf (items ++ [item]) = (restrictionsOf items).add (typePart item) (fieldPart item) := by
  have known : ((restrictionsOf items).any fun entry => entry.1 == typePart item) = true
      ↔ typePart item ∈ items.map typePart := by
    simp [restrictionsOf]
  rw [restrictionsOf, List.map_append, List.map_singleton, eraseDups_concat, Includes.add]
  by_cases member : typePart item ∈ items.map typePart
  · rw [if_pos member, if_pos (known.mpr member), List.append_nil, restrictionsOf, List.map_map]
    refine List.map_congr_left fun other _ => ?_
    by_cases same : typePart item = other
    · subst same
      simp [fieldsOf_append, fieldsOf_singleton]
    · simp [fieldsOf_concat_of_ne items same, Ne.symm same]
  · rw [if_neg member, if_neg (mt known.mp member), List.map_append, restrictionsOf]
    congr 1
    · refine List.map_congr_left fun other inTypes => ?_
      have differs : typePart item ≠ other := fun same => member (same ▸ List.mem_eraseDups.mp inTypes)
      rw [fieldsOf_concat_of_ne items differs]
    · rw [List.map_singleton, fieldsOf_append, fieldsOf_eq_nil member, fieldsOf_singleton]
      rfl

private theorem types_append {front back : List String} (nonempty : front ≠ [])
    (typed : ∀ item ∈ front, typePart item = typeName) (apart : typeName ∉ back.map typePart) :
    ((front ++ back).map typePart).eraseDups = typeName :: (back.map typePart).eraseDups := by
  obtain ⟨item, more, rfl⟩ := List.exists_cons_of_ne_nil nonempty
  have same : (more.map typePart).filter (fun other => !other == typeName) = [] := by
    refine List.filter_eq_nil_iff.mpr fun other member => ?_
    obtain ⟨again, inMore, rfl⟩ := List.mem_map.mp member
    simp [typed again (List.mem_cons_of_mem _ inMore)]
  have others : (back.map typePart).filter (fun other => !other == typeName) = back.map typePart := by
    refine List.filter_eq_self.mpr fun other member => ?_
    simpa using fun again : other = typeName => apart (again ▸ member)
  rw [List.cons_append, List.map_cons, typed item List.mem_cons_self, List.eraseDups_cons, List.map_append,
    List.filter_append, same, others, List.nil_append]

/-- Where items of one type stand in front of items of others, the type comes first. -/
theorem restrictionsOf_append {front back : List String} (nonempty : front ≠ [])
    (typed : ∀ item ∈ front, typePart item = typeName) (apart : typeName ∉ back.map typePart) :
    restrictionsOf (front ++ back)
      = (typeName, (front.map fieldPart).filter fun field => field ≠ "") :: restrictionsOf back := by
  have own : front.filter (fun item => typePart item = typeName) = front :=
    List.filter_eq_self.mpr fun item member => decide_eq_true (typed item member)
  rw [restrictionsOf, types_append nonempty typed apart, List.map_cons, fieldsOf_append, fieldsOf_eq_nil apart,
    List.append_nil, fieldsOf, own, restrictionsOf]
  congr 1
  refine List.map_congr_left fun other member => ?_
  have missing : other ∉ front.map typePart := fun again => by
    obtain ⟨item, inFront, rfl⟩ := List.mem_map.mp again
    exact apart (typed item inFront ▸ List.mem_eraseDups.mp member)
  rw [fieldsOf_append, fieldsOf_eq_nil missing, List.nil_append]

/-- Reading on from what some items gave is reading all of them, up to the first that is none. -/
theorem parseIncludesOnto_restrictionsOf (before items : List String) :
    parseIncludesOnto (restrictionsOf before) items
      = match items.find? fun item => ¬ IsItem item with
        | some item => .error (.notTypeAndField item)
        | none => .ok (restrictionsOf (before ++ items)) := by
  induction items generalizing before with
  | nil => simp [parseIncludesOnto]
  | cons item rest ih =>
    rw [parseIncludesOnto, parseInclude_eq]
    by_cases isItem : IsItem item
    · rw [if_pos isItem, List.find?_cons_of_neg (by simpa using isItem)]
      have next := ih (before ++ [item])
      rw [restrictionsOf_concat, List.append_assoc, List.singleton_append] at next
      exact next
    · rw [if_neg isItem, List.find?_cons_of_pos (by simpa using isItem)]
      rfl

theorem parseIncludes_eq (items : List String) :
    parseIncludes items = match items.find? fun item => ¬ IsItem item with
      | some item => .error (.notTypeAndField item)
      | none => .ok (restrictionsOf items) :=
  parseIncludesOnto_restrictionsOf [] items

theorem parseIncludes_error_iff :
    (∃ error, parseIncludes items = .error error) ↔ ∃ item ∈ items, ¬ IsItem item := by
  rw [parseIncludes_eq]
  cases found : items.find? fun item => ¬ IsItem item with
  | none =>
    have proper := List.find?_eq_none.mp found
    simpa using proper
  | some item =>
    have isNone : ¬ IsItem item := by simpa using List.find?_some found
    simpa using ⟨item, List.mem_of_find?_eq_some found, isNone⟩

theorem parseIncludes_ok_iff {includes : Includes} :
    parseIncludes items = .ok includes ↔ (∀ item ∈ items, IsItem item) ∧ restrictionsOf items = includes := by
  rw [parseIncludes_eq]
  cases found : items.find? fun item => ¬ IsItem item with
  | none =>
    have proper : ∀ item ∈ items, IsItem item := by simpa using List.find?_eq_none.mp found
    rw [Except.ok.injEq, and_iff_right proper]
  | some item =>
    have isNone : ¬ IsItem item := by simpa using List.find?_some found
    simpa using fun proper => absurd (proper item (List.mem_of_find?_eq_some found)) isNone

/-- The restriction of a type is read off its own items. -/
theorem lookup_restrictionsOf (items : List String) (typeName : String) :
    (restrictionsOf items).lookup typeName
      = if typeName ∈ items.map typePart then some (fieldsOf items typeName) else none := by
  have looked : ∀ names : List String,
      (names.map fun other => (other, fieldsOf items other)).lookup typeName
        = if typeName ∈ names then some (fieldsOf items typeName) else none := by
    intro names
    induction names with
    | nil => rfl
    | cons name rest ih =>
      rw [List.map_cons, List.lookup_cons]
      by_cases same : typeName = name
      · simp [same]
      · simp [beq_false_of_ne same, same, ih]
  rw [restrictionsOf, looked]
  simp only [List.mem_eraseDups]

end Lists

/-! Restrictions written as items. -/

/-- Types have names without dots, each but once, and fields have names. -/
structure Includes.Plain (includes : Includes) : Prop where
  distinct : (includes.map Prod.fst).Nodup
  types : ∀ entry ∈ includes, entry.1 ≠ "" ∧ '.' ∉ entry.1.toList
  fields : ∀ entry ∈ includes, "" ∉ entry.2

/-- Items for restrictions, type by type. For each type there is one item at least, and those with a field
give its fields; items without one may stand anywhere between them. -/
inductive Includes.Spells : Includes → List String → Prop
  | nil : Spells [] []
  | entry (nonempty : names ≠ []) (named : names.filter (fun name => name ≠ "") = fields)
      (rest : Spells includes items) :
      Spells ((typeName, fields) :: includes) (names.map (itemFor typeName) ++ items)

/-- Each type alone and then with each of its fields. -/
def Includes.items (includes : Includes) : List String :=
  includes.flatMap fun (typeName, fields) => ("" :: fields).map (itemFor typeName)

namespace Includes

variable {includes : Includes} {items : List String} {entry : String × List String}

theorem Plain.tail (plain : Plain (entry :: includes)) : Plain includes where
  distinct := (List.nodup_cons.mp plain.distinct).2
  types := fun other member => plain.types other (List.mem_cons_of_mem _ member)
  fields := fun other member => plain.fields other (List.mem_cons_of_mem _ member)

theorem Plain.spells (plain : includes.Plain) : includes.Spells includes.items := by
  induction includes with
  | nil => exact .nil
  | cons entry rest ih =>
    refine .entry (List.cons_ne_nil _ _) ?_ (ih plain.tail)
    rw [List.filter_cons_of_neg (by simp), List.filter_eq_self]
    intro name member
    have proper := plain.fields entry List.mem_cons_self
    exact decide_eq_true fun nothing => proper (nothing ▸ member)

/-- What is spelled are items, and of no other types. -/
theorem Spells.types (spells : includes.Spells items) (plain : includes.Plain) :
    ∀ item ∈ items, IsItem item ∧ typePart item ∈ includes.map Prod.fst := by
  induction spells with
  | nil => simp
  | @entry names fields includes items typeName nonempty named rest ih =>
    obtain ⟨proper, dotless⟩ := plain.types _ List.mem_cons_self
    intro item member
    rcases List.mem_append.mp member with own | later
    · obtain ⟨name, _, rfl⟩ := List.mem_map.mp own
      refine ⟨isItem_iff.mpr ⟨typeName, name, proper, dotless, rfl⟩, ?_⟩
      rw [(itemFor_parts dotless name).1]
      exact List.mem_cons_self
    · obtain ⟨isItem, typed⟩ := ih plain.tail item later
      exact ⟨isItem, List.mem_cons_of_mem _ typed⟩

/-- Restrictions are read back from any items that spell them. -/
theorem Spells.restrictionsOf (spells : includes.Spells items) (plain : includes.Plain) :
    CommandLine.restrictionsOf items = includes := by
  induction spells with
  | nil => rfl
  | @entry names fields includes items typeName nonempty named rest ih =>
    have dotless := (plain.types _ List.mem_cons_self).2
    have apart : typeName ∉ items.map typePart := fun again => by
      obtain ⟨item, member, same⟩ := List.mem_map.mp again
      exact (List.nodup_cons.mp plain.distinct).1 (same ▸ (rest.types plain.tail item member).2)
    have typed : ∀ item ∈ names.map (itemFor typeName), typePart item = typeName := fun item member => by
      obtain ⟨name, _, rfl⟩ := List.mem_map.mp member
      exact (itemFor_parts dotless name).1
    have given : (names.map (itemFor typeName)).map fieldPart = names := by
      rw [List.map_map]
      exact (List.map_congr_left fun name _ => (itemFor_parts dotless name).2).trans (List.map_id' _)
    rw [restrictionsOf_append (by simpa using nonempty) typed apart, given, named, ih plain.tail]

theorem Spells.parseIncludes (spells : includes.Spells items) (plain : includes.Plain) :
    CommandLine.parseIncludes items = .ok includes :=
  parseIncludes_ok_iff.mpr ⟨fun item member => (spells.types plain item member).1, spells.restrictionsOf plain⟩

end Includes

/-! Restrictions of a request. -/

namespace Run

open Files

variable {current : Place} {request : Request} {progress between : Progress} {base : Settings}

/-- The settings of a request before its arguments are taken in. -/
def givenSettings (current : Place) (request : Request) : Run Settings :=
  match request.settings? with
  | none => pure {}
  | some path => readSettings current path

theorem readSettings_run {path text : String} {bytes : ByteArray} {settings : Settings}
    (held : progress.tree.read current (Path.ofString path).render = .ok bytes)
    (decoded : Text.Utf8.decode bytes = .ok text)
    (read : Settings.ofText (String.ofList (Text.unifyLineEnds text.toList)) = .ok settings) :
    (readSettings current path).run progress = (.ok settings, progress) := by
  have looked : (get : Run Progress).run progress = (.ok progress, progress) := rfl
  have passed {α : Type} (value : α) : (pure value : Run α).run progress = (.ok value, progress) := rfl
  simp only [readSettings, run_bind, looked, held, atPath, Except.mapError, decoded, orFinish, passed, read]

/-- How the arguments of a request are taken in once its settings are read. -/
inductive Taken (request : Request) (base : Settings) : Except Ending Settings → Prop
  | badInclude (bad : parseIncludes request.includes = .error error) :
      Taken request base (.error (.misused .generate (.badInclude error)))
  | badPackage (read : parseIncludes request.includes = .ok includes) (named : request.package? = some name)
      (proper : name ≠ "") (wrong : Settings.PackageName.ofString? name = none) :
      Taken request base (.error (.refused (.settings .values [⟨[.name "package_name"], .badPackage name⟩])))
  | taken (read : parseIncludes request.includes = .ok includes)
      (restricted : settings.includeFields = includes ++ base.includeFields) :
      Taken request base (.ok settings)

theorem chooseSettings_takes (given : (givenSettings current request).run progress = (.ok base, between)) :
    ∃ result, (chooseSettings current request).run progress = (result, between) ∧ Taken request base result := by
  unfold chooseSettings
  unfold givenSettings at given
  cases settings : request.settings?
  -- What the other arguments say is taken in alike, whether or not there is a file.
  all_goals
    simp only [settings] at given
    simp only [run_bind, given]
    cases read : parseIncludes request.includes
    case error error => exact ⟨_, rfl, .badInclude read⟩
    case ok includes =>
      cases package : request.package?.filter fun name => name ≠ "" with
      | none => exact ⟨_, rfl, .taken read rfl⟩
      | some name =>
        obtain ⟨named, proper⟩ := Option.filter_eq_some_iff.mp package
        dsimp only
        cases spelled : Settings.PackageName.ofString? name
        case none => exact ⟨_, rfl, .badPackage read named (by simpa using proper) spelled⟩
        case some packageName => exact ⟨_, rfl, .taken read rfl⟩

/-- Arguments that are no items are not taken in. -/
theorem Taken.misused {result : Except Ending Settings} (taken : Taken request base result)
    (bad : ∃ item ∈ request.includes, ¬ IsItem item) :
    ∃ error, result = .error (.misused .generate (.badInclude error)) := by
  obtain ⟨item, member, isNone⟩ := bad
  cases taken with
  | badInclude => exact ⟨_, rfl⟩
  | badPackage read | taken read => exact absurd ((parseIncludes_ok_iff.mp read).1 item member) isNone

/-- Items are taken in, unless the package is at fault. -/
theorem Taken.settles {result : Except Ending Settings} (taken : Taken request base result)
    (proper : ∀ item ∈ request.includes, IsItem item)
    (named : ∀ name, request.package? = some name → name = "" ∨ (Settings.PackageName.ofString? name).isSome) :
    ∃ settings, result = .ok settings := by
  cases taken with
  | badInclude bad =>
    obtain ⟨item, member, isNone⟩ := parseIncludes_error_iff.mp ⟨_, bad⟩
    exact absurd (proper item member) isNone
  | badPackage _ given present wrong =>
    rcases named _ given with nothing | spelled
    · exact absurd nothing present
    · simp [wrong] at spelled
  | taken => exact ⟨_, rfl⟩

/-- A type that a request restricts has the fields of the request, and any other has those it had. -/
theorem Taken.allowed {settings : Settings} (taken : Taken request base (.ok settings)) (typeName : String) :
    settings.allowed? typeName
      = if typeName ∈ request.includes.map typePart then some (fieldsOf request.includes typeName)
        else base.allowed? typeName := by
  cases taken with
  | taken read restricted =>
    obtain ⟨_, rfl⟩ := parseIncludes_ok_iff.mp read
    rw [Settings.allowed?, restricted, List.lookup_append, lookup_restrictionsOf]
    by_cases typed : typeName ∈ request.includes.map typePart
    · rw [if_pos typed, if_pos typed, Option.some_or]
    · rw [if_neg typed, if_neg typed, Option.none_or]
      rfl

end Run

/-- **Restrictions are decoded faithfully.** Items are refused exactly when one of them has no dot or begins with
one. Otherwise the types are what stands in front of the first dots, in the order in which they first
occur, each with the fields that are named behind them in turn. So restrictions that are written as
items are read back, and together with those of a file they count for the types that the items name,
where those of the file count for all others. -/
theorem includes_faithful :
    (∀ items, (∃ error, parseIncludes items = .error error) ↔
      ∃ item ∈ items, '.' ∉ item.toList ∨ item.toList.head? = some '.') ∧
    (∀ items, (∀ item ∈ items, IsItem item) → parseIncludes items = .ok (restrictionsOf items) ∧
      ∀ item ∈ items, item = itemFor (typePart item) (fieldPart item) ∧ '.' ∉ (typePart item).toList) ∧
    (∀ includes : Includes, includes.Plain → parseIncludes includes.items = .ok includes ∧
      ∀ items, includes.Spells items → parseIncludes items = .ok includes) ∧
    ∀ (current : Files.Place) (request : Request) (progress between : Progress) (base : Settings),
      (Run.givenSettings current request).run progress = (.ok base, between) →
      ((∃ item ∈ request.includes, ¬ IsItem item) →
        ∃ error, (Run.chooseSettings current request).run progress
          = (.error (.misused .generate (.badInclude error)), between)) ∧
      ((∀ item ∈ request.includes, IsItem item) →
        (∀ name, request.package? = some name → name = "" ∨ (Settings.PackageName.ofString? name).isSome) →
        ∃ settings, (Run.chooseSettings current request).run progress = (.ok settings, between)) ∧
      ∀ settings after, (Run.chooseSettings current request).run progress = (.ok settings, after) →
        ∀ typeName, settings.allowed? typeName
          = if typeName ∈ request.includes.map typePart then some (fieldsOf request.includes typeName)
            else base.allowed? typeName := by
  refine ⟨fun items => ?_, fun items proper => ⟨?_, fun item member => ?_⟩, fun includes plain => ⟨?_, ?_⟩, ?_⟩
  · simp only [parseIncludes_error_iff, IsItem, not_and_or, not_not]
  · exact parseIncludes_ok_iff.mpr ⟨proper, rfl⟩
  · obtain ⟨typeName, fieldName, _, dotless, rfl⟩ := isItem_iff.mp (proper item member)
    obtain ⟨typed, named⟩ := itemFor_parts dotless fieldName
    rw [typed, named]
    exact ⟨rfl, dotless⟩
  · exact plain.spells.parseIncludes plain
  · exact fun items spells => spells.parseIncludes plain
  · intro current request progress between base given
    obtain ⟨result, ran, taken⟩ := Run.chooseSettings_takes given
    refine ⟨?_, ?_, ?_⟩
    · intro bad
      obtain ⟨error, rfl⟩ := taken.misused bad
      exact ⟨error, ran⟩
    · intro proper named
      obtain ⟨settings, rfl⟩ := taken.settles proper named
      exact ⟨settings, ran⟩
    · intro settings after chosen
      obtain ⟨rfl, -⟩ := Prod.mk.inj (ran.symm.trans chosen)
      exact taken.allowed

/-! A cinema, whose settings restrict two types. -/
namespace Cinema

def settingsText : String :=
  "\x7b\"include_fields\": \x7b\"Query\": [\"halls\"], \"Hall\": [\"name\"]\x7d\x7d"

def request : Request :=
  { Request.forSchema "cinema.graphqls" with
    settings? := some "cinema.json"
    includes := ["Query.films", "Film.", "Query.", "Query.films.all"] }

def start : Progress := ⟨[], { files := [(["cinema.json"], settingsText.toUTF8)] }, 0, []⟩

theorem held : start.tree.read [] (Files.Path.ofString "cinema.json").render = .ok settingsText.toUTF8 := by
  have written : (Files.Path.ofString "cinema.json").render = "cinema.json" := by decide
  have relative : Text.beginsWith "/" "cinema.json" = false := by decide
  have whole : Files.splitSlashes "cinema.json" = ["cinema.json"] := by decide
  have reached : start.tree.reach false Files.Tree.linkLimit [] ["cinema.json"] = .ok ["cinema.json"] := by
    rw [Schema.reach_name rfl rfl rfl (by decide) (by decide) (by decide), Files.Tree.reach]
    rfl
  rw [written, Files.Tree.read, Files.Tree.resolve, if_neg (by decide), relative, whole]
  change (Files.Tree.reach _ false Files.Tree.linkLimit [] ["cinema.json"]).bind _ = _
  rw [reached]
  rfl

theorem given : ∃ base, (Run.givenSettings [] request).run start = (.ok base, start) ∧
    base.includeFields = [("Query", ["halls"]), ("Hall", ["name"])] := by
  have decoded : Text.Utf8.decode settingsText.toUTF8 = .ok settingsText := by
    rw [Text.Utf8.decode, Schema.decodeFrom_ascii (by decide +kernel)]
    decide +kernel
  have restricted : (Settings.ofText (String.ofList (Text.unifyLineEnds settingsText.toList))).toOption.map
      Settings.includeFields = some [("Query", ["halls"]), ("Hall", ["name"])] := by decide +kernel
  cases read : Settings.ofText (String.ofList (Text.unifyLineEnds settingsText.toList)) with
  | error faults => simp [read, Except.toOption] at restricted
  | ok base =>
    rw [read] at restricted
    exact ⟨base, Run.readSettings_run held decoded read, Option.some.inj restricted⟩

/-- The items replace what the settings say of queries, restrict films to nothing, and leave halls alone. With an
item that is none among them the run ends. -/
theorem cinema_restricted :
    parseIncludes request.includes = .ok [("Query", ["films", "films.all"]), ("Film", [])] ∧
    (∃ error, parseIncludes (request.includes ++ [".films"]) = .error error) ∧
    ∃ settings, (Run.chooseSettings [] request).run start = (.ok settings, start) ∧
      settings.allowed? "Query" = some ["films", "films.all"] ∧ settings.allowed? "Film" = some [] ∧
      settings.allowed? "Hall" = some ["name"] ∧ settings.allowed? "Seat" = none := by
  obtain ⟨refuses, reads, _, takes⟩ := includes_faithful
  obtain ⟨base, ran, restricted⟩ := given
  have proper : ∀ item ∈ request.includes, IsItem item := by decide +kernel
  have types : request.includes.map typePart = ["Query", "Film", "Query", "Query"] := by decide +kernel
  obtain ⟨_, settles, allowed⟩ := takes [] request start start base ran
  obtain ⟨settings, chosen⟩ := settles proper (by simp [request, Request.forSchema])
  have effective := allowed settings start chosen
  have kept (typeName : String) (other : typeName ∉ ["Query", "Film", "Query", "Query"]) :
      settings.allowed? typeName = [("Query", ["halls"]), ("Hall", ["name"])].lookup typeName := by
    rw [effective, types, if_neg other, Settings.allowed?, restricted]
  refine ⟨(reads _ proper).1.trans (by decide +kernel), (refuses _).mpr ⟨".films", by simp, by decide⟩,
    settings, chosen, ?_, ?_, kept "Hall" (by decide), kept "Seat" (by decide)⟩
  · rw [effective, types, if_pos (by decide)]
    decide +kernel
  · rw [effective, types, if_pos (by decide)]
    decide +kernel

end Cinema

end SelectionGen.CommandLine
