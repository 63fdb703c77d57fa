import Mathlib.Data.Fintype.Card
import SelectionGen.Proofs.Writing

/-! Objects whose fields form a finite tree. Nothing is asked of the order in which objects are made, and one object
may be recorded in several places; only no object leads back to itself. An object of height `h` has objects of every
smaller height below it, all of them different, so the height of a tree stays below the number of objects there
are, and each such object is written out. -/
namespace SelectionGen

/-- How many objects a chain of nested fields goes through. -/
def Selection.height : Selection → Nat
  | .nil => 0
  | .leaf _ rest => rest.height
  | .nest _ below rest => max (below.height + 1) rest.height

namespace Store

/-- The recorded fields form a tree: it has their names, in their order, and below a name what is recorded on the
object below. -/
inductive Records (store : Store) : List (String × Option ObjectId) → Selection → Prop
  | nil : Records store [] .nil
  | leaf {field : String} {fields : List (String × Option ObjectId)} {others : Selection}
      (rest : Records store fields others) : Records store ((field, none) :: fields) (.leaf field others)
  | nest {field : String} {below : ObjectId} {object : ProjectionObject} {fields : List (String × Option ObjectId)}
      {deeper others : Selection} (found : store.object? below = some object)
      (inside : Records store object.fields deeper) (rest : Records store fields others) :
      Records store ((field, some below) :: fields) (.nest field deeper others)

/-- An object leads to itself, and to whatever the objects that are recorded on it lead to. -/
inductive Leads (store : Store) : ObjectId → ObjectId → Prop
  | refl (id : ObjectId) : Leads store id id
  | step {id below other : ObjectId} {object : ProjectionObject} {field : String}
      (found : store.object? id = some object) (member : (field, some below) ∈ object.fields)
      (further : Leads store below other) : Leads store id other

variable {store : Store} {id : ObjectId} {object : ProjectionObject} {fields : List (String × Option ObjectId)}
  {tree other : Selection}

namespace Records

/-- Fields form one tree at most. -/
theorem unique (first : store.Records fields tree) (second : store.Records fields other) : tree = other := by
  induction first generalizing other with
  | nil =>
    cases second with
    | nil => rfl
  | leaf rest ih =>
    cases second with
    | leaf rest' => rw [ih rest']
  | nest found inside rest ihInside ih =>
    cases second with
    | nest found' inside' rest' =>
      obtain rfl := Option.some.inj (found.symm.trans found')
      rw [ihInside inside', ih rest']

/-- Every height that is smaller than that of a tree is the height of a tree below it. -/
theorem exists_height (recorded : store.Records fields tree) {height : Nat} (lower : height < tree.height) :
    ∃ id object below, store.object? id = some object ∧ store.Records object.fields below ∧ below.height = height := by
  induction recorded with
  | nil => exact absurd lower (Nat.not_lt_zero _)
  | leaf rest ih => exact ih lower
  | @nest _ below object _ deeper others found inside rest ihInside ih =>
    by_cases inOthers : height < others.height
    · exact ih inOthers
    · by_cases inDeeper : height < deeper.height
      · exact ihInside inDeeper
      · rw [Selection.height] at lower
        exact ⟨below, object, deeper, found, inside, by omega⟩

/-- A tree is less high than there are objects. -/
theorem height_lt (found : store.object? id = some object) (recorded : store.Records object.fields tree) :
    tree.height < store.objects.length := by
  have each : ∀ height : Fin (tree.height + 1), ∃ place : Fin store.objects.length, ∃ object below,
      store.object? place = some object ∧ store.Records object.fields below ∧ below.height = height := by
    intro height
    by_cases whole : height.val = tree.height
    · exact ⟨⟨id, Store.object_lt found⟩, object, tree, found, recorded, whole.symm⟩
    · have lower : height.val < tree.height := by omega
      obtain ⟨place, object, below, held, records, same⟩ := recorded.exists_height lower
      exact ⟨⟨place, Store.object_lt held⟩, object, below, held, records, same⟩
  choose place held below found records same using each
  -- Objects of different heights are different, because what is recorded on an object is one tree.
  have distinct : Function.Injective place := by
    intro first second equal
    have sameObject : held first = held second :=
      Option.some.inj ((found first).symm.trans ((congrArg _ (congrArg Fin.val equal)).trans (found second)))
    have sameTree := (records first).unique (sameObject ▸ records second)
    exact Fin.ext ((same first).symm.trans ((congrArg Selection.height sameTree).trans (same second)))
  have counted := Fintype.card_le_of_injective place distinct
  rw [Fintype.card_fin, Fintype.card_fin] at counted
  exact counted

/-- A tree is read off in as many levels as it is high. -/
theorem selection (recorded : store.Records fields tree) {depth : Nat} (deep : tree.height ≤ depth) :
    selectionOfFields? (store.selectionUpTo? depth) fields = some tree := by
  induction recorded generalizing depth with
  | nil => rfl
  | leaf rest ih =>
    rw [selectionOfFields?, ih deep]
    rfl
  | @nest _ _ _ _ deeper others found inside rest ihInside ih =>
    rw [Selection.height] at deep
    obtain ⟨levels, rfl⟩ : ∃ levels, depth = levels + 1 := ⟨depth - 1, by omega⟩
    have read := (store.selectionUpTo_succ found levels).trans (ihInside (by omega))
    rw [selectionOfFields?, read, ih (by omega)]
    rfl

/-- An object whose fields form a tree is written out as that tree. -/
theorem serialize (found : store.object? id = some object) (recorded : store.Records object.fields tree) :
    store.serialize? id = some tree.serialize := by
  have bound := height_lt found recorded
  obtain ⟨depth, size⟩ : ∃ depth, store.objects.length = depth + 1 := ⟨store.objects.length - 1, by omega⟩
  rw [serialize?, selection?, size, store.selectionUpTo_succ found, recorded.selection (by omega)]
  rfl

/-- Nothing keeps an object from being written out if nothing keeps any object that it leads to. -/
theorem writable {program : Program} (recorded : store.Records fields tree) {depth : Nat} (deep : tree.height ≤ depth)
    (writes : ∀ field below, (field, some below) ∈ fields → ∀ reached content, store.Leads below reached →
      store.object? reached = some content → program.Writes content) :
    fields.findSome? (fun (_, below?) => below?.bind (program.writingFaultUpTo? store depth)) = none := by
  induction recorded generalizing depth with
  | nil => rfl
  | leaf rest ih =>
    rw [List.findSome?_cons]
    exact ih deep fun field below member => writes field below (List.mem_cons_of_mem _ member)
  | @nest field below object _ deeper others found inside rest ihInside ih =>
    rw [Selection.height] at deep
    obtain ⟨levels, rfl⟩ : ∃ levels, depth = levels + 1 := ⟨depth - 1, by omega⟩
    have here := writes field below List.mem_cons_self
    have own := here below object (.refl below) found
    have lower : deeper.height ≤ levels := by omega
    have clear := ihInside lower fun _ _ member reached content leads =>
      here reached content (.step found member leads)
    have others : others.height ≤ levels + 1 := by omega
    simp only [List.findSome?_cons, Option.bind_some, Program.writingFaultUpTo?, found, own.reached,
      Program.bareFault?, own.held, clear]
    exact ih others fun field below member => writes field below (List.mem_cons_of_mem _ member)

/-- Code that writes an object out gets the text of its tree. -/
theorem serialized {program : Program} (found : store.object? id = some object)
    (recorded : store.Records object.fields tree)
    (writes : ∀ reached content, store.Leads id reached → store.object? reached = some content →
      program.Writes content) :
    program.serialized store id = .ok tree.serialize := by
  have bound := height_lt found recorded
  obtain ⟨depth, size⟩ : ∃ depth, store.objects.length = depth + 1 := ⟨store.objects.length - 1, by omega⟩
  have own := writes id object (.refl id) found
  have lower : tree.height ≤ depth := by omega
  have inside := recorded.writable lower fun _ _ member reached content leads =>
    writes reached content (.step found member leads)
  have clear : program.writingFaultUpTo? store store.objects.length id = none := by
    simp only [size, Program.writingFaultUpTo?, found, own.reached, Program.bareFault?, own.held, inside]
    rfl
  rw [Program.serialized, serialize found recorded, clear]

end Records

end Store

end SelectionGen
