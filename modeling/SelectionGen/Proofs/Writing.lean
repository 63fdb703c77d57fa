import SelectionGen.Proofs.Recording
import SelectionGen.Selection.Objects

/-! Writing objects out. What is below an object is read off as a tree where every object is recorded on an older
one, so that no object leads back to itself. Such an object is written out as its tree, however deep that
is, and what happens to other objects does not matter for it. -/
namespace SelectionGen

/-- Entries as a selection, each field alone or with the selection below it. -/
def Selection.ofEntries : List (String × Option Selection) → Selection
  | [] => .nil
  | (field, none) :: rest => .leaf field (ofEntries rest)
  | (field, some below) :: rest => .nest field below (ofEntries rest)

/-- One level of what is selected on an object. -/
theorem Store.selectionUpTo_succ (store : Store) {id : Nat} {object : ProjectionObject}
    (found : store.object? id = some object) (depth : Nat) :
    store.selectionUpTo? (depth + 1) id = selectionOfFields? (store.selectionUpTo? depth) object.fields := by
  rw [selectionUpTo?, found]
  rfl

namespace Program

/-- Nothing about the object itself keeps it from being written out. -/
structure Writes (program : Program) (object : ProjectionObject) : Prop where
  reached : program.accessFault? object.classKey = none
  held : object.isBare = false

/-- The fields recorded on an object show some entries: every object recorded is younger than the one it is recorded
on, can be written out, and shows what is selected below its field. -/
inductive Shows (program : Program) (store : Store) :
    Nat → List (String × Option ObjectId) → List (String × Option Selection) → Prop
  | nil {owner : Nat} : Shows program store owner [] []
  | leaf {owner : Nat} {field : String} {fields : List (String × Option ObjectId)}
      {entries : List (String × Option Selection)} (rest : Shows program store owner fields entries) :
      Shows program store owner ((field, none) :: fields) ((field, none) :: entries)
  | nest {owner below : Nat} {field : String} {object : ProjectionObject}
      {fields : List (String × Option ObjectId)} {deeper entries : List (String × Option Selection)}
      (younger : owner < below) (found : store.object? below = some object) (writes : program.Writes object)
      (inside : Shows program store below object.fields deeper) (rest : Shows program store owner fields entries) :
      Shows program store owner ((field, some below) :: fields) ((field, some (.ofEntries deeper)) :: entries)

variable {program : Program} {store after : Store} {owner id : Nat} {object : ProjectionObject}
  {fields more : List (String × Option ObjectId)} {entries others : List (String × Option Selection)}
  {field : String} {below : Option ObjectId} {content : Option Selection}

namespace Shows

theorem names (shows : program.Shows store owner fields entries) :
    fields.map Prod.fst = entries.map Prod.fst := by
  induction shows with
  | nil => rfl
  | leaf rest ih => rw [List.map_cons, List.map_cons, ih]
  | nest younger found writes inside rest _ ih => rw [List.map_cons, List.map_cons, ih]

/-- The objects below an object are younger, so what happens to the others does not matter for it. -/
theorem frame (shows : program.Shows store owner fields entries)
    (kept : ∀ other, owner < other → other < store.objects.length → after.object? other = store.object? other) :
    program.Shows after owner fields entries := by
  induction shows with
  | nil => exact .nil
  | leaf rest ih => exact .leaf (ih kept)
  | nest younger found writes inside rest ihInside ih =>
    refine .nest younger ((kept _ younger (Store.object_lt found)).trans found) writes ?_ (ih kept)
    exact ihInside fun other above => kept other (Nat.lt_trans younger above)

theorem append (front : program.Shows store owner fields entries)
    (back : program.Shows store owner more others) :
    program.Shows store owner (fields ++ more) (entries ++ others) := by
  induction front with
  | nil => exact back
  | leaf rest ih => exact .leaf (ih back)
  | nest younger found writes inside rest _ ih => exact .nest younger found writes inside (ih back)

/-- Taking a place is shown at that place. -/
private theorem replace (shows : program.Shows store owner fields entries)
    (one : program.Shows store owner [(field, below)] [(field, content)]) :
    program.Shows store owner
      (fields.map fun (other, old) => if other = field then (other, below) else (other, old))
      (entries.map fun (other, old) => if other = field then (other, content) else (other, old)) := by
  induction shows with
  | nil => exact .nil
  | @leaf _ other _ _ rest ih =>
    rw [List.map_cons, List.map_cons]
    by_cases same : other = field
    · simpa [same] using one.append (ih one)
    · simpa [same] using Shows.leaf (ih one)
  | @nest _ _ other _ _ _ _ younger found writes inside rest _ ih =>
    rw [List.map_cons, List.map_cons]
    by_cases same : other = field
    · simpa [same] using one.append (ih one)
    · simpa [same] using Shows.nest younger found writes inside (ih one)

/-- One more field that is recorded shows as one more entry. -/
theorem record (shows : program.Shows store owner fields entries)
    (one : program.Shows store owner [(field, below)] [(field, content)]) :
    program.Shows store owner (recordEntry fields field below) (recordEntry entries field content) := by
  have held : (fields.any fun (other, _) => other == field) = entries.any fun (other, _) => other == field := by
    have both := congrArg (fun names => names.any fun other => other == field) shows.names
    simpa only [List.any_map, Function.comp_def] using both
  unfold recordEntry
  rw [held]
  split_ifs
  · exact shows.replace one
  · exact shows.append one

/-- Fields show some entries if each object that is recorded does. -/
theorem exists_of_members (fields : List (String × Option ObjectId))
    (each : ∀ field below, (field, some below) ∈ fields → owner < below ∧ ∃ object deeper,
      store.object? below = some object ∧ program.Writes object ∧
        program.Shows store below object.fields deeper) :
    ∃ entries, program.Shows store owner fields entries := by
  induction fields with
  | nil => exact ⟨[], .nil⟩
  | cons entry rest ih =>
    obtain ⟨entries, shown⟩ := ih fun field below member => each field below (List.mem_cons_of_mem _ member)
    obtain ⟨field, _ | below⟩ := entry
    · exact ⟨_, .leaf shown⟩
    · obtain ⟨younger, object, deeper, found, writes, inside⟩ := each field below List.mem_cons_self
      exact ⟨_, .nest younger found writes inside shown⟩

/-- The tree below an object is read off in as many levels as there are younger objects. -/
theorem selection (shows : program.Shows store owner fields entries) (depth : Nat)
    (deep : store.objects.length ≤ owner + 1 + depth) :
    Store.selectionOfFields? (store.selectionUpTo? depth) fields = some (.ofEntries entries) := by
  induction shows generalizing depth with
  | nil => rfl
  | leaf rest ih =>
    rw [Store.selectionOfFields?, ih depth deep]
    rfl
  | nest younger found writes inside rest ihInside ih =>
    have bound := Store.object_lt found
    obtain ⟨levels, rfl⟩ : ∃ levels, depth = levels + 1 := ⟨depth - 1, by omega⟩
    have read := (store.selectionUpTo_succ found levels).trans (ihInside levels (by omega))
    rw [Store.selectionOfFields?, read, ih _ deep]
    rfl

/-- Nothing below an object keeps it from being written out. -/
theorem writable (shows : program.Shows store owner fields entries) (depth : Nat)
    (deep : store.objects.length ≤ owner + 1 + depth) :
    fields.findSome? (fun (_, below?) => below?.bind (program.writingFaultUpTo? store depth)) = none := by
  induction shows generalizing depth with
  | nil => rfl
  | leaf rest ih =>
    rw [List.findSome?_cons]
    exact ih depth deep
  | nest younger found writes inside rest ihInside ih =>
    have bound := Store.object_lt found
    obtain ⟨levels, rfl⟩ : ∃ levels, depth = levels + 1 := ⟨depth - 1, by omega⟩
    have clear := ihInside levels (by omega)
    simp only [List.findSome?_cons, Option.bind_some, writingFaultUpTo?, found, writes.reached, bareFault?,
      writes.held, clear]
    exact ih _ deep

end Shows

/-- An object that shows entries is written out as these. -/
theorem serialized_of_shows (found : store.object? id = some object) (writes : program.Writes object)
    (shows : program.Shows store id object.fields entries) :
    program.serialized store id = .ok (Selection.ofEntries entries).serialize := by
  have bound := Store.object_lt found
  obtain ⟨depth, size⟩ : ∃ depth, store.objects.length = depth + 1 := ⟨store.objects.length - 1, by omega⟩
  have tree : store.serialize? id = some (Selection.ofEntries entries).serialize := by
    rw [Store.serialize?, Store.selection?, size, store.selectionUpTo_succ found, shows.selection depth (by omega)]
    rfl
  have clear : program.writingFaultUpTo? store store.objects.length id = none := by
    simp only [size, writingFaultUpTo?, found, writes.reached, bareFault?, writes.held,
      shows.writable depth (by omega)]
    rfl
  rw [serialized, tree, clear]

end Program

end SelectionGen
