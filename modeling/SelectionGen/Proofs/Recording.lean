import Mathlib.Data.List.Induction
import Mathlib.Data.List.Nodup
import SelectionGen.Selection.Store

/-! What is recorded on objects. A field keeps the place of its first call and has what its last call gave, so the
fields of an object are known from the calls alone. An object that is made or recorded on leaves all others
as they are. -/
namespace SelectionGen

/-- Entries with one more recorded. One whose name is there already takes its place. -/
def recordEntry {α : Type} (entries : List (String × α)) (name : String) (content : α) : List (String × α) :=
  if entries.any fun (other, _) => other == name then
    entries.map fun (other, old) => if other = name then (other, content) else (other, old)
  else entries ++ [(name, content)]

/-- What calls leave: every name at the place of its first call, with the content of its last. -/
def latest {α : Type} (calls : List (String × α)) : List (String × α) :=
  (calls.map Prod.fst).eraseDups.filterMap fun name =>
    (calls.reverse.lookup name).map fun content => (name, content)

section Entries

variable {α : Type} {calls entries : List (String × α)} {name : String} {content : α}

private theorem lookup_of_called (called : name ∈ calls.map Prod.fst) :
    ∃ held, calls.reverse.lookup name = some held := by
  cases found : calls.reverse.lookup name with
  | some held => exact ⟨held, rfl⟩
  | none =>
    obtain ⟨⟨other, held⟩, member, rfl⟩ := List.mem_map.mp called
    have absent := List.lookup_eq_none_iff.mp found _ (List.mem_reverse.mpr member)
    simp at absent

/-- Each name that was called is there once, in the order of the first calls. -/
theorem latest_names (calls : List (String × α)) : (latest calls).map Prod.fst = (calls.map Prod.fst).eraseDups := by
  have kept : ∀ names : List String, (∀ name ∈ names, name ∈ calls.map Prod.fst) →
      (names.filterMap fun name => (calls.reverse.lookup name).map fun content => (name, content)).map Prod.fst
        = names := by
    intro names
    induction names with
    | nil => exact fun _ => rfl
    | cons name rest ih =>
      intro called
      obtain ⟨held, found⟩ := lookup_of_called (called name List.mem_cons_self)
      simp only [List.filterMap_cons, found, Option.map_some, List.map_cons,
        ih fun other later => called other (List.mem_cons_of_mem _ later)]
  exact kept _ fun name member => List.mem_eraseDups.mp member

/-- What calls leave is what some of them gave. -/
theorem mem_of_mem_latest {entry : String × α} (member : entry ∈ latest calls) : entry ∈ calls := by
  obtain ⟨name, _, found⟩ := List.mem_filterMap.mp member
  obtain ⟨content, held, rfl⟩ := Option.map_eq_some_iff.mp found
  obtain ⟨front, back, split, _⟩ := List.lookup_eq_some_iff.mp held
  exact List.mem_reverse.mp (split ▸ List.mem_append_right _ List.mem_cons_self)

theorem eraseDups_concat {β : Type} [BEq β] [LawfulBEq β] [DecidableEq β] {names : List β} {name : β} :
    (names ++ [name]).eraseDups = names.eraseDups ++ if name ∈ names then [] else [name] := by
  rw [List.eraseDups_append]
  by_cases member : name ∈ names <;> simp [List.removeAll, member, List.eraseDups_cons]

theorem nodup_eraseDups {β : Type} [BEq β] [LawfulBEq β] (names : List β) : names.eraseDups.Nodup := by
  classical
  induction names using List.reverseRecOn with
  | nil => exact List.nodup_nil
  | append_singleton names name ih =>
    rw [eraseDups_concat]
    by_cases member : name ∈ names
    · rwa [if_pos member, List.append_nil]
    · rw [if_neg member, ← List.concat_eq_append]
      exact ih.concat fun again => member (List.mem_eraseDups.mp again)

/-- One more call is recorded. -/
theorem latest_concat (calls : List (String × α)) (name : String) (content : α) :
    latest (calls ++ [(name, content)]) = recordEntry (latest calls) name content := by
  have isHeld : ((latest calls).any fun (other, _) => other == name) = true ↔ name ∈ calls.map Prod.fst := by
    rw [← List.mem_eraseDups, ← latest_names, List.any_eq_true, List.mem_map]
    simp only [beq_iff_eq]
  have looked (other : String) : (calls ++ [(name, content)]).reverse.lookup other
      = if other = name then some content else calls.reverse.lookup other := by
    rw [List.reverse_concat, List.lookup_cons]
    by_cases same : other = name
    · rw [if_pos same, same, beq_self_eq_true]
    · rw [if_neg same, beq_false_of_ne same]
  by_cases called : name ∈ calls.map Prod.fst
  · rw [recordEntry, if_pos (isHeld.mpr called), latest, latest, List.map_append, List.map_singleton,
      eraseDups_concat, if_pos called, List.append_nil, List.map_filterMap]
    refine List.filterMap_congr fun other member => ?_
    obtain ⟨held, found⟩ := lookup_of_called (List.mem_eraseDups.mp member)
    rw [looked, found]
    by_cases same : other = name <;> simp [same]
  · rw [recordEntry, if_neg fun held => called (isHeld.mp held), latest, latest, List.map_append,
      List.map_singleton, eraseDups_concat, if_neg called, List.filterMap_append]
    congr 1
    · refine List.filterMap_congr fun other member => ?_
      have different : other ≠ name := fun same => called (same ▸ List.mem_eraseDups.mp member)
      rw [looked, if_neg different]
    · simp

/-- Calls of different fields are all kept. -/
theorem latest_of_nodup (distinct : (calls.map Prod.fst).Nodup) : latest calls = calls := by
  induction calls using List.reverseRecOn with
  | nil => rfl
  | append_singleton calls call ih =>
    rw [List.map_append, List.map_singleton, List.nodup_append] at distinct
    have absent : ¬ (calls.any fun (other, _) => other == call.1) = true := by
      rw [List.any_eq_true]
      rintro ⟨other, member, same⟩
      exact distinct.2.2 other.1 (List.mem_map_of_mem member) call.1 List.mem_cons_self (beq_iff_eq.mp same)
    rw [latest_concat, ih distinct.1, recordEntry, if_neg absent]

/-- What an earlier call of a field gave does not matter. -/
theorem latest_replaced (earlier between later : List (String × α)) (name : String) (old other content : α) :
    latest (earlier ++ [(name, old)] ++ between ++ [(name, content)] ++ later)
      = latest (earlier ++ [(name, other)] ++ between ++ [(name, content)] ++ later) := by
  unfold latest
  refine congr (congrArg _ (funext fun wanted => ?_)) (by simp)
  by_cases same : wanted = name <;> simp [List.lookup_append, List.lookup_cons, same, beq_false_of_ne]

end Entries

theorem ProjectionObject.record_eq (object : ProjectionObject) (field : String) (below : Option ObjectId) :
    object.record field below = { object with fields := recordEntry object.fields field below } := by
  rw [record, recordEntry]
  split <;> rfl

namespace Store

variable {store : Store} {id other : Nat} {object : ProjectionObject} {key : ClassKey} {field : String}
  {below : Option ObjectId}

theorem object_lt (found : store.object? id = some object) : id < store.objects.length :=
  (List.getElem?_eq_some_iff.mp found).1

@[simp] theorem create_length (store : Store) (key : ClassKey) :
    (store.create key).2.objects.length = store.objects.length + 1 := by
  simp [create]

@[simp] theorem record_length (store : Store) (id : ObjectId) (field : String) (below : Option ObjectId) :
    (store.record id field below).objects.length = store.objects.length := by
  simp [record, update]

theorem create_new (store : Store) (key : ClassKey) :
    (store.create key).2.object? store.objects.length = some { classKey := key } := by
  simp [create, object?]

theorem create_old (old : id < store.objects.length) : (store.create key).2.object? id = store.object? id := by
  rw [object?, create, List.getElem?_append_left old]
  rfl

theorem record_self (found : store.object? id = some object) :
    (store.record id field below).object? id = some (object.record field below) := by
  have held : store.objects[id]? = some object := found
  rw [object?, record, update, List.getElem?_modify_eq, held]
  rfl

theorem record_other (different : other ≠ id) :
    (store.record id field below).object? other = store.object? other := by
  simp [object?, record, update, Ne.symm different]

/-- An object that is created and recorded on an older one has nothing recorded on it itself. -/
theorem record_create_new (old : id < store.objects.length) :
    ((store.create key).2.record id field below).object? store.objects.length = some { classKey := key } :=
  (record_other (Nat.ne_of_gt old)).trans (store.create_new key)

/-- All objects are there already but the one that is created, and that one is new. -/
theorem create_cases (found : (store.create key).2.object? id = some object) :
    store.object? id = some object ∨ store.object? id = none ∧ object = { classKey := key } := by
  have bound := object_lt found
  rw [create_length] at bound
  rcases Nat.lt_succ_iff_lt_or_eq.mp bound with old | rfl
  · exact .inl ((store.create_old old).symm.trans found)
  · rw [store.create_new, Option.some.injEq] at found
    exact .inr ⟨by simp [object?], found.symm⟩

/-- No object is another one than before but the one that something is recorded on. -/
theorem record_cases {entry : ProjectionObject} (found : store.object? id = some object)
    (stored : (store.record id field below).object? other = some entry) :
    (other = id ∧ entry = object.record field below) ∨ other ≠ id ∧ store.object? other = some entry := by
  by_cases same : other = id
  · subst same
    rw [record_self found, Option.some.injEq] at stored
    exact .inl ⟨rfl, stored.symm⟩
  · exact .inr ⟨same, (record_other same).symm.trans stored⟩

end Store

end SelectionGen
