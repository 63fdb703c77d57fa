import Mathlib.Data.List.Nodup
import Mathlib.Logic.Relation
import SelectionGen.Proofs.Client
import SelectionGen.Proofs.Writing

/-! Generated classes in use. Code makes objects and calls accessors on them, in any order, from within blocks and
after blocks were broken off. An invariant of all objects and of the calls so far says what is recorded
where; whatever code does keeps it, since a call records on one object and nothing else ever does. So no
code selects what the schema does not have, and what it selected can always be written out. -/
namespace SelectionGen

open Target

/-- A call that recorded a field: the object that it was made on, the field, and the object made for it, if it was
one that goes on. -/
structure RecordedCall where
  owner : ObjectId
  field : String
  below : Option ObjectId
deriving DecidableEq, Repr

/-- Classes in use: all objects, those that the blocks under way run on, the innermost first, and the calls that
recorded a field, in order. -/
structure Usage where
  store : Store := {}
  blocks : List ObjectId := []
  calls : List RecordedCall := []
deriving DecidableEq, Repr

namespace Usage

/-- What a call of an accessor leads to: a block begins, or the call is over, or it failed. -/
def afterCall (usage : Usage) (owner : ObjectId) (field : String) : Called Reached → Usage
  | (.ok (.below below), store) =>
    { store, blocks := below :: usage.blocks, calls := usage.calls ++ [⟨owner, field, some below⟩] }
  | (.ok _, store) => { usage with store, calls := usage.calls ++ [⟨owner, field, none⟩] }
  | (.error _, store) => { usage with store }

/-- One thing that code does: it makes an object of a class, calls an accessor of an object without or with a block,
or leaves blocks, be it at their ends or because something is raised. -/
inductive Step (program : Program) : Usage → Usage → Prop
  | make {usage : Usage} {key : ClassKey} (known : (program.class? key).isSome = true) :
      Step program usage { usage with store := (program.instantiate key usage.store).2 }
  | call {usage : Usage} {id : ObjectId} {object : ProjectionObject} {name : String} {method : Method}
      (found : usage.store.object? id = some object)
      (reached : program.accessor? object.classKey name = some method) :
      Step program usage
        (usage.afterCall id method.fieldName (program.callMember id object.classKey name usage.store))
  | callWith {usage : Usage} {id : ObjectId} {object : ProjectionObject} {name : String} {method : Method}
      (found : usage.store.object? id = some object)
      (reached : program.accessor? object.classKey name = some method) :
      Step program usage
        (usage.afterCall id method.fieldName (program.openMember id object.classKey name usage.store))
  | leave {usage : Usage} {around : List ObjectId} (outer : around <:+ usage.blocks) :
      Step program usage { usage with blocks := around }

/-- Everything that code does one behind the other, from the beginning. -/
def Reaches (program : Program) (usage : Usage) : Prop := Relation.ReflTransGen (Step program) {} usage

/-- The calls that recorded something on an object. -/
def callsOn (usage : Usage) (id : ObjectId) : List (String × Option ObjectId) :=
  (usage.calls.filter fun call => call.owner == id).map fun call => (call.field, call.below)

end Usage

/-- What a field may have: nothing if its accessor does not go on, else an object of the class it goes on in. -/
def Store.Fits (store : Store) : Selector → Option ObjectId → Prop
  | .leaf, below? => below? = none
  | .composite sub, below? => ∃ below object, below? = some below ∧ store.object? below = some object ∧
      object.classKey = sub.key

/-- An object is recorded on another one. -/
def Store.Owns (store : Store) (owner below : ObjectId) : Prop :=
  ∃ object field, store.object? owner = some object ∧ (field, some below) ∈ object.fields

namespace Usage

/-- Only well-typed selections are made. Every field recorded on an object is that of exactly one accessor of its
class and has what that accessor gives; fields are distinct and in the order of their first calls. An
object is recorded in one place at most, on an older object, so objects form a forest, and every one of
them can be written out. -/
structure WellTyped (client : Client) (usage : Usage) : Prop where
  typed : ∀ id object, usage.store.object? id = some object → ∃ projection,
    client.Declares object.classKey projection ∧ ∀ field below?, (field, below?) ∈ object.fields →
      ∃ accessor ∈ projection.accessors, accessor.fieldName = field ∧ usage.store.Fits accessor.selector below? ∧
        ∀ other ∈ projection.accessors, other.fieldName = field → other = accessor
  distinct : ∀ id object, usage.store.object? id = some object → (object.fields.map Prod.fst).Nodup
  ordered : ∀ id object, usage.store.object? id = some object →
    object.fields.map Prod.fst = ((usage.callsOn id).map Prod.fst).eraseDups
  single : ∀ first second object other field place below, usage.store.object? first = some object →
    usage.store.object? second = some other → (field, some below) ∈ object.fields →
    (place, some below) ∈ other.fields → first = second ∧ field = place
  younger : ∀ owner below, usage.store.Owns owner below → owner < below
  forest : ∀ id, ¬ Relation.TransGen usage.store.Owns id id
  written : ∀ id object, usage.store.object? id = some object → ∃ text,
    client.program.callMember id object.classKey "serialize" usage.store
      = Called.keep (.ok (.value (.text text))) usage.store

/-- What the calls so far say about all objects. -/
structure Sound (client : Client) (usage : Usage) : Prop where
  declared : ∀ id object, usage.store.object? id = some object →
    ∃ projection, client.Declares object.classKey projection
  held : ∀ id object, usage.store.object? id = some object → object.isBare = false
  fields : ∀ id object, usage.store.object? id = some object → object.fields = latest (usage.callsOn id)
  calls : ∀ call ∈ usage.calls, ∃ object projection, usage.store.object? call.owner = some object ∧
    client.Declares object.classKey projection ∧ ∃ accessor ∈ projection.accessors,
      accessor.fieldName = call.field ∧ usage.store.Fits accessor.selector call.below ∧
        ∀ below, call.below = some below → (call.owner : Nat) < below
  single : ∀ first ∈ usage.calls, ∀ second ∈ usage.calls, ∀ below, first.below = some below →
    second.below = some below → first = second

end Usage

/-- Objects stay, and keep their classes. -/
def Store.Keeps (before after : Store) : Prop :=
  ∀ id object, before.object? id = some object →
    ∃ kept, after.object? id = some kept ∧ kept.classKey = object.classKey

section Keeping

variable {store before after : Store}

theorem Store.Keeps.fits (keeps : before.Keeps after) {selector : Selector} {below? : Option ObjectId}
    (fits : before.Fits selector below?) : after.Fits selector below? := by
  cases selector with
  | leaf => exact fits
  | composite sub =>
    obtain ⟨below, object, rfl, found, same⟩ := fits
    obtain ⟨kept, alsoFound, keptClass⟩ := keeps below object found
    exact ⟨below, kept, rfl, alsoFound, keptClass.trans same⟩

theorem Store.keeps_create (store : Store) (key : ClassKey) : store.Keeps (store.create key).2 :=
  fun _ object found => ⟨object, (store.create_old (object_lt found)).trans found, rfl⟩

theorem Store.keeps_record (store : Store) (id : ObjectId) (field : String) (below : Option ObjectId) :
    store.Keeps (store.record id field below) := by
  intro other object found
  by_cases same : other = id
  · subst same
    refine ⟨_, record_self found, ?_⟩
    rw [object.record_eq]
  · exact ⟨object, (record_other same).trans found, rfl⟩

end Keeping

namespace Usage

variable {client : Client} {usage : Usage} {projection : Projection} {key : ClassKey} {accessor : Accessor}
  {id : Nat} {object : ProjectionObject} {below : Option ObjectId} {blocks : List ObjectId}

namespace Sound

theorem empty (client : Client) : Sound client {} where
  declared := by simp [Store.object?]
  held := by simp [Store.object?]
  fields := by simp [Store.object?]
  calls := by simp
  single := by simp

/-- Which blocks are under way does not matter. -/
theorem reblock (sound : usage.Sound client) (blocks : List ObjectId) : Sound client { usage with blocks } :=
  ⟨sound.declared, sound.held, sound.fields, sound.calls, sound.single⟩

/-- One more call is one on its owner. -/
private theorem callsOn_concat (store : Store) (blocks : List ObjectId) (call : RecordedCall) (other : ObjectId) :
    ({ store, blocks, calls := usage.calls ++ [call] } : Usage).callsOn other
      = usage.callsOn other ++ if other = call.owner then [(call.field, call.below)] else [] := by
  by_cases same : other = call.owner
  · subst same
    simp [callsOn]
  · simp [callsOn, same, Ne.symm same]

/-- Every call was made on an object. -/
private theorem callsOn_eq_nil (sound : usage.Sound client) (absent : usage.store.object? id = none) :
    usage.callsOn id = [] := by
  rw [callsOn, List.map_eq_nil_iff, List.filter_eq_nil_iff]
  intro call member same
  obtain ⟨object, _, found, _⟩ := sound.calls call member
  rw [beq_iff_eq.mp same, absent] at found
  cases found

/-- A new object has nothing recorded on it. -/
theorem make (sound : usage.Sound client) (declares : client.Declares key projection) :
    Sound client { usage with store := (usage.store.create key).2 } := by
  refine ⟨fun id object found => ?_, fun id object found => ?_, fun id object found => ?_,
    fun call member => ?_, sound.single⟩
  · rcases Store.create_cases found with old | ⟨_, rfl⟩
    · exact sound.declared id object old
    · exact ⟨projection, declares⟩
  · rcases Store.create_cases found with old | ⟨_, rfl⟩
    · exact sound.held id object old
    · rfl
  · rcases Store.create_cases found with old | ⟨absent, rfl⟩
    · exact sound.fields id object old
    · show [] = latest (usage.callsOn id)
      rw [sound.callsOn_eq_nil absent]
      rfl
  · obtain ⟨object, projection, found, declared, accessor, inProjection, named, fits, younger⟩ :=
      sound.calls call member
    have keeps := usage.store.keeps_create key
    obtain ⟨kept, alsoFound, sameClass⟩ := keeps _ object found
    exact ⟨kept, projection, alsoFound, sameClass ▸ declared, accessor, inProjection, named, keeps.fits fits, younger⟩

/-- A call of an accessor is recorded on one object. -/
theorem record (sound : usage.Sound client) (found : usage.store.object? id = some object)
    (declares : client.Declares object.classKey projection) (inProjection : accessor ∈ projection.accessors)
    (fits : usage.store.Fits accessor.selector below) (younger : ∀ other, below = some other → id < other)
    (unused : ∀ other, below = some other → ∀ call ∈ usage.calls, call.below ≠ some other) :
    Sound client
      { store := usage.store.record id accessor.fieldName below
        blocks
        calls := usage.calls ++ [⟨id, accessor.fieldName, below⟩] } := by
  have keeps := usage.store.keeps_record id accessor.fieldName below
  refine ⟨fun other entry stored => ?_, fun other entry stored => ?_, fun other entry stored => ?_,
    fun call member => ?_, ?_⟩
  · rcases Store.record_cases found stored with ⟨rfl, rfl⟩ | ⟨_, old⟩
    · rw [object.record_eq]
      exact ⟨projection, declares⟩
    · exact sound.declared other entry old
  · rcases Store.record_cases found stored with ⟨rfl, rfl⟩ | ⟨_, old⟩
    · rw [object.record_eq]
      exact sound.held other object found
    · exact sound.held other entry old
  · rw [callsOn_concat]
    rcases Store.record_cases found stored with ⟨rfl, rfl⟩ | ⟨different, old⟩
    · rw [if_pos rfl, latest_concat, ← sound.fields other object found, object.record_eq]
    · rw [if_neg different, List.append_nil]
      exact sound.fields other entry old
  · rcases List.mem_append.mp member with earlier | last
    · obtain ⟨entry, other, stored, declared, called, inOther, named, fitted, above⟩ := sound.calls call earlier
      obtain ⟨kept, alsoStored, sameClass⟩ := keeps _ entry stored
      exact ⟨kept, other, alsoStored, sameClass ▸ declared, called, inOther, named, keeps.fits fitted, above⟩
    · obtain rfl := List.mem_singleton.mp last
      obtain ⟨kept, alsoStored, sameClass⟩ := keeps _ object found
      exact ⟨kept, projection, alsoStored, sameClass ▸ declares, accessor, inProjection, rfl, keeps.fits fits, younger⟩
  · intro first firstIn second secondIn other firstBelow secondBelow
    rcases List.mem_append.mp firstIn with earlier | last <;> rcases List.mem_append.mp secondIn with also | lastAlso
    · exact sound.single first earlier second also other firstBelow secondBelow
    · -- The object of a call is new, so no earlier call can have it.
      obtain rfl := List.mem_singleton.mp lastAlso
      exact absurd firstBelow (unused other secondBelow first earlier)
    · obtain rfl := List.mem_singleton.mp last
      exact absurd secondBelow (unused other firstBelow second also)
    · rw [List.mem_singleton.mp last, List.mem_singleton.mp lastAlso]

/-- What accessors went on in are objects that are there. -/
private theorem below_exists (sound : usage.Sound client) {call : RecordedCall} (member : call ∈ usage.calls)
    {other : Nat} (made : call.below = some other) : ∃ object, usage.store.object? other = some object := by
  obtain ⟨_, _, _, _, accessor, _, _, fits, _⟩ := sound.calls call member
  rw [made] at fits
  cases selector : accessor.selector with
  | leaf =>
    rw [selector] at fits
    cases fits
  | composite sub =>
    rw [selector] at fits
    obtain ⟨below, object, same, found, _⟩ := fits
    cases same
    exact ⟨object, found⟩

/-- Calling an accessor without a block keeps the invariant, whatever comes of it. -/
theorem call (named : client.WellNamed) (sound : usage.Sound client) (found : usage.store.object? id = some object)
    (declares : client.Declares object.classKey projection) (inProjection : accessor ∈ projection.accessors) :
    Sound client (usage.afterCall id accessor.fieldName
      (client.program.callMember id object.classKey accessor.name usage.store)) := by
  cases selector : accessor.selector with
  | leaf =>
    rw [named.callMember_leaf declares inProjection selector found (sound.held id object found)]
    refine sound.record found declares inProjection (selector ▸ rfl) ?_ ?_ <;> exact fun _ none => nomatch none
  | composite sub =>
    rw [named.callMember_composite declares inProjection selector]
    exact sound

/-- Calling an accessor with a block keeps the invariant, whatever comes of it. -/
theorem callWith (named : client.WellNamed) (sound : usage.Sound client)
    (found : usage.store.object? id = some object) (declares : client.Declares object.classKey projection)
    (inProjection : accessor ∈ projection.accessors) :
    Sound client (usage.afterCall id accessor.fieldName
      (client.program.openMember id object.classKey accessor.name usage.store)) := by
  cases selector : accessor.selector with
  | leaf =>
    rw [named.openMember_leaf declares inProjection selector]
    exact sound
  | composite sub =>
    rw [named.openMember_composite declares inProjection selector found (sound.held id object found)]
    obtain ⟨below, _, _, belowDeclared⟩ := declares.below inProjection selector
    have bound := Store.object_lt found
    refine (sound.make belowDeclared).record ((usage.store.create_old bound).trans found) declares inProjection
      (selector ▸ ⟨_, _, rfl, usage.store.create_new sub.key, rfl⟩) ?_ ?_
    · rintro other same
      cases same
      exact bound
    · rintro other same call member made
      cases same
      obtain ⟨object, stored⟩ := sound.below_exists member made
      exact absurd (Store.object_lt stored) (Nat.lt_irrefl _)

/-- **One step.** Whatever code does next, the invariant holds again. -/
theorem step (named : client.WellNamed) (sound : usage.Sound client) {next : Usage}
    (step : Step client.program usage next) : Sound client next := by
  cases step with
  | make known =>
    obtain ⟨projection, declares⟩ := Client.declares_of_class known
    rw [named.instantiate_eq declares]
    exact sound.make declares
  | call found reached =>
    obtain ⟨projection, declares⟩ := sound.declared _ _ found
    obtain ⟨accessor, inProjection, rfl, same⟩ := named.exists_accessor declares reached
    rw [← same]
    exact sound.call named found declares inProjection
  | callWith found reached =>
    obtain ⟨projection, declares⟩ := sound.declared _ _ found
    obtain ⟨accessor, inProjection, rfl, same⟩ := named.exists_accessor declares reached
    rw [← same]
    exact sound.callWith named found declares inProjection
  | leave outer => exact sound.reblock _

/-- After any run the invariant holds. -/
theorem of_reaches (named : client.WellNamed) (reaches : Reaches client.program usage) : usage.Sound client := by
  induction reaches with
  | refl => exact empty client
  | tail _ step sound => exact sound.step named step

/-- What is recorded on an object was recorded by a call on it. -/
private theorem call_of_field (sound : usage.Sound client) (found : usage.store.object? id = some object)
    {field : String} (recorded : (field, below) ∈ object.fields) : ⟨id, field, below⟩ ∈ usage.calls := by
  rw [sound.fields id object found] at recorded
  obtain ⟨⟨owner, called, made⟩, member, same⟩ := List.mem_map.mp (mem_of_mem_latest recorded)
  obtain ⟨inCalls, isOwner⟩ := List.mem_filter.mp member
  obtain ⟨rfl, rfl⟩ := Prod.mk.inj same
  rwa [← beq_iff_eq.mp isOwner]

/-- What a field has is what its accessor gives. -/
private theorem accessor_of_field (sound : usage.Sound client) (found : usage.store.object? id = some object)
    (declares : client.Declares object.classKey projection) {field : String}
    (recorded : (field, below) ∈ object.fields) :
    ∃ accessor ∈ projection.accessors, accessor.fieldName = field ∧ usage.store.Fits accessor.selector below ∧
      ∀ other, below = some other → id < other := by
  obtain ⟨owner, other, stored, declared, accessor, inOther, named, fits, younger⟩ :=
    sound.calls _ (sound.call_of_field found recorded)
  obtain rfl : object = owner := Option.some.inj (found.symm.trans stored)
  exact ⟨accessor, declares.unique declared ▸ inOther, named, fits, younger⟩

/-- The objects recorded on an object are there, and younger. -/
private theorem owned (sound : usage.Sound client) (found : usage.store.object? id = some object) {field : String}
    {other : Nat} (recorded : (field, some other) ∈ object.fields) :
    id < other ∧ ∃ below, usage.store.object? other = some below := by
  obtain ⟨projection, declares⟩ := sound.declared id object found
  obtain ⟨_, _, _, _, younger⟩ := sound.accessor_of_field found declares recorded
  exact ⟨younger other rfl, sound.below_exists (sound.call_of_field found recorded) rfl⟩

private theorem younger_of_path (sound : usage.Sound client) {owner below : ObjectId}
    (path : Relation.TransGen usage.store.Owns owner below) : (owner : Nat) < below := by
  induction path with
  | single owns =>
    obtain ⟨object, field, found, recorded⟩ := owns
    exact (sound.owned found recorded).1
  | tail _ owns earlier =>
    obtain ⟨object, field, found, recorded⟩ := owns
    exact Nat.lt_trans earlier (sound.owned found recorded).1

private theorem writes (named : client.WellNamed) (sound : usage.Sound client)
    (found : usage.store.object? id = some object) : client.program.Writes object := by
  obtain ⟨projection, declares⟩ := sound.declared id object found
  exact ⟨named.accessFault_eq_none declares, sound.held id object found⟩

/-- Every object shows a selection. The objects on it are younger, so there are fewer that are younger still. -/
private theorem shows (named : client.WellNamed) (sound : usage.Sound client) (count : Nat) :
    ∀ id object, usage.store.objects.length - id = count → usage.store.object? id = some object →
      ∃ entries, client.program.Shows usage.store id object.fields entries := by
  induction count using Nat.strongRecOn with
  | _ count ih =>
    intro id object size found
    refine Program.Shows.exists_of_members object.fields fun field other recorded => ?_
    obtain ⟨younger, below, stored⟩ := sound.owned found recorded
    have inside := Store.object_lt stored
    have fewer : usage.store.objects.length - (other : Nat) < count := by omega
    obtain ⟨deeper, shown⟩ := ih _ fewer other below rfl stored
    exact ⟨younger, below, deeper, stored, sound.writes named stored, shown⟩

/-- What the invariant says about what is recorded. -/
theorem wellTyped (named : client.WellNamed) (sound : usage.Sound client) : usage.WellTyped client where
  typed := by
    intro id object found
    obtain ⟨projection, declares⟩ := sound.declared id object found
    refine ⟨projection, declares, fun field below recorded => ?_⟩
    obtain ⟨accessor, inProjection, rfl, fits, _⟩ := sound.accessor_of_field found declares recorded
    refine ⟨accessor, inProjection, rfl, fits, fun other alsoIn same => ?_⟩
    exact List.inj_on_of_nodup_map (client.coherent.fieldNames projection declares.mem_projections) alsoIn
      inProjection same
  distinct := by
    intro id object found
    rw [sound.fields id object found, latest_names]
    exact nodup_eraseDups _
  ordered := by
    intro id object found
    rw [sound.fields id object found, latest_names]
  single := by
    intro first second object other field place below found stored recorded alsoRecorded
    have same := sound.single _ (sound.call_of_field found recorded) _ (sound.call_of_field stored alsoRecorded)
      below rfl rfl
    exact ⟨congrArg RecordedCall.owner same, congrArg RecordedCall.field same⟩
  younger := by
    rintro owner below ⟨object, field, found, recorded⟩
    exact (sound.owned found recorded).1
  forest := by
    intro id path
    exact Nat.lt_irrefl _ (sound.younger_of_path path)
  written := by
    intro id object found
    obtain ⟨projection, declares⟩ := sound.declared id object found
    obtain ⟨entries, shown⟩ := sound.shows named _ id object rfl found
    refine ⟨(Selection.ofEntries entries).serialize, ?_⟩
    rw [named.callMember_serialize declares, Program.serialized_of_shows found (sound.writes named found) shown]
    rfl

end Sound

/-- **Only well-typed selections are made.** Take the client of any run on a schema whose names do not begin with
two underscores, where the module of the entry point knows no two classes by one name. Then whatever code
does with it, objects made, accessors called with and without blocks on any object there is, blocks left
at their ends or broken off, after each step all that is recorded is well-typed. -/
theorem wellTyped_of_reaches {client : Client} (named : client.WellNamed) {usage : Usage}
    (reaches : Reaches client.program usage) : usage.WellTyped client :=
  (Sound.of_reaches named reaches).wellTyped named

open Projection in
/-- A query for the titles of books, made in a block. -/
theorem library_wellTyped : Library.client.WellNamed ∧
    ∃ usage, Reaches Library.client.program usage ∧ usage.store.objects.length = 2 ∧
      usage.calls = [⟨0, "books", some 1⟩, ⟨1, "title", none⟩] ∧ usage.WellTyped Library.client := by
  have named := Library.client_wellNamed
  let root := Library.context.rootProjectionOf 0 Library.query
  let book := Library.context.projection Library.book
  let rootKey : ClassKey := ⟨"generated.queries.queries", "QueryProjection"⟩
  have rootDeclared : Library.client.Declares rootKey root :=
    ⟨_, List.mem_filter.mpr ⟨List.mem_cons_of_mem _ List.mem_cons_self, rfl⟩, List.mem_cons_self, by decide⟩
  have bookDeclared : Library.client.Declares book.classRef.key book :=
    Client.declares_of_client (List.mem_cons_of_mem _ List.mem_cons_self)
  have books : (⟨"books", "books", .composite book.classRef, none⟩ : Accessor) ∈ root.accessors := by decide
  have title : (⟨"title", "title", .leaf, none⟩ : Accessor) ∈ book.accessors := by decide
  have made : Step Library.client.program {} { store := ⟨[{ classKey := rootKey }]⟩ } := by
    have step : Step Library.client.program {} _ :=
      .make (show (Library.client.program.class? rootKey).isSome = true by decide)
    rw [named.instantiate_eq rootDeclared] at step
    exact step
  have entered : Step Library.client.program { store := ⟨[{ classKey := rootKey }]⟩ }
      { store := ⟨[⟨rootKey, [("books", some 1)], false⟩, { classKey := book.classRef.key }]⟩
        blocks := [1], calls := [⟨0, "books", some 1⟩] } := by
    have found : (⟨[{ classKey := rootKey }]⟩ : Store).object? 0 = some { classKey := rootKey } := rfl
    obtain ⟨_, reached, _⟩ := named.accessor_of_composite rootDeclared books rfl
    have step : Step Library.client.program { store := ⟨[{ classKey := rootKey }]⟩ } _ := .callWith found reached
    rw [named.openMember_composite rootDeclared books rfl found rfl] at step
    exact step
  have selected : Step Library.client.program
      { store := ⟨[⟨rootKey, [("books", some 1)], false⟩, { classKey := book.classRef.key }]⟩
        blocks := [1], calls := [⟨0, "books", some 1⟩] }
      { store := ⟨[⟨rootKey, [("books", some 1)], false⟩, ⟨book.classRef.key, [("title", none)], false⟩]⟩
        blocks := [1], calls := [⟨0, "books", some 1⟩, ⟨1, "title", none⟩] } := by
    have found : (⟨[⟨rootKey, [("books", some 1)], false⟩, { classKey := book.classRef.key }]⟩ : Store).object? 1
        = some { classKey := book.classRef.key } := rfl
    have reached := named.accessor_of_leaf bookDeclared title rfl
    have step : Step Library.client.program
        { store := ⟨[⟨rootKey, [("books", some 1)], false⟩, { classKey := book.classRef.key }]⟩
          blocks := [1], calls := [⟨0, "books", some 1⟩] } _ := .call found reached
    rw [named.callMember_leaf bookDeclared title rfl found rfl] at step
    exact step
  have reaches := ((Relation.ReflTransGen.single made).tail entered).tail selected
  exact ⟨named, _, reaches, rfl, rfl, wellTyped_of_reaches named reaches⟩

open Projection Schema in
/-- Where an alias is taken, a field gets an object of a class that has none of its fields, although the entry
point is not the type of any of its own fields. -/
theorem namesakes_mistyped :
    (∀ document, (Namesakes.client.load ()).outcome = .ok document →
      PlainlyNamed (TypeFilter.applyAll Namesakes.client.filters document)) ∧
    (∀ field ∈ Namesakes.query.fields, field.type.named ≠ Namesakes.query.name) ∧
    ∃ usage, Reaches Namesakes.client.program usage ∧ ¬ usage.WellTyped Namesakes.client := by
  have creatable : Namesakes.client.program.creationFault? Namesakes.entryKey = none := by decide
  have made : Step Namesakes.client.program {} { store := Namesakes.entry } := by
    have step : Step Namesakes.client.program {} _ :=
      .make (show (Namesakes.client.program.class? Namesakes.entryKey).isSome = true by decide)
    rw [Program.instantiate, creatable] at step
    exact step
  have reached : Namesakes.client.program.accessor? Namesakes.entryKey "a"
      = some ⟨"a", "a", .composite "ClientQueryProjection", none⟩ := by decide
  have entered : Step Namesakes.client.program { store := Namesakes.entry }
      { store := ⟨[⟨Namesakes.entryKey, [("a", some 1)], false⟩, { classKey := Namesakes.occupantKey }]⟩
        blocks := [1], calls := [⟨0, "a", some 1⟩] } := by
    have found : Namesakes.entry.object? 0 = some { classKey := Namesakes.entryKey } := rfl
    have step : Step Namesakes.client.program { store := Namesakes.entry } _ := .callWith found reached
    rw [show Namesakes.client.program.openMember 0 _ "a" _ = _ from Namesakes.openMember] at step
    exact step
  refine ⟨Namesakes.plain, by decide, _, .tail (.single made) entered, fun typed => ?_⟩
  obtain ⟨projection, declares, fields⟩ := typed.typed 0 _ rfl
  obtain ⟨accessor, inProjection, called, fits, _⟩ := fields "a" (some 1) List.mem_cons_self
  have root : projection = Namesakes.context.rootProjectionOf 0 Namesakes.query := by
    refine declares.unique ⟨Namesakes.entryModule, ?_, List.mem_cons_self, by decide⟩
    exact List.mem_filter.mpr ⟨List.mem_cons_of_mem _ List.mem_cons_self, rfl⟩
  have leads : ∀ accessor ∈ (Namesakes.context.rootProjectionOf 0 Namesakes.query).accessors,
      accessor.fieldName = "a" →
        accessor.selector = .composite (Namesakes.context.projection Namesakes.namesake).classRef := by
    decide
  rw [leads accessor (root ▸ inProjection) called] at fits
  obtain ⟨below, object, same, found, wanted⟩ := fits
  cases same
  cases found
  exact absurd wanted (by decide)

end Usage

end SelectionGen
