import SelectionGen.Proofs.Client
import SelectionGen.Proofs.MemberCalls
import SelectionGen.Proofs.Selecting

/-! Chains that are run. Running a chain touches the object that it starts at and objects that it makes, and no other.
So what an object shows behind it is what it showed before and the calls of the chain, and an object that is
written out at the end of a program is the selection that the program means. -/
namespace SelectionGen

namespace Evaluation

/-- A program on a new object of a class, and what the object is written out as at its end. -/
def serializeAfter (key : ClassKey) (block : Block) : Evaluated Value := do
  let object ← callProjectionType key {}
  runBlock block object
  callNamed object "serialize" none

end Evaluation

/-! How deep blocks are within one another. -/

mutual

def Chain.nesting : Chain → Nat
  | .done => 0
  | .call _ rest => rest.nesting
  | .callWith _ block rest => max (block.nesting + 1) rest.nesting

def Block.nesting : Block → Nat
  | .done => 0
  | .chain first rest => max first.nesting rest.nesting

end

/-- All objects that were there, but for one, are as they were. -/
structure Store.Spares (before after : Store) (id : Nat) : Prop where
  grown : before.objects.length ≤ after.objects.length
  kept : ∀ other < before.objects.length, other ≠ id → after.object? other = before.object? other

theorem Store.Spares.refl (store : Store) (id : Nat) : store.Spares store id := ⟨Nat.le_refl _, fun _ _ _ => rfl⟩

theorem Store.Spares.trans {first second third : Store} {id : Nat} (before : first.Spares second id)
    (after : second.Spares third id) : first.Spares third id where
  grown := Nat.le_trans before.grown after.grown
  kept := fun other bound different =>
    (after.kept other (Nat.lt_of_lt_of_le bound before.grown) different).trans (before.kept other bound different)

namespace Client

/-- An object of a class shows what calls select. -/
def Selects (client : Client) (store : Store) (id : Nat) (key : ClassKey) (calls : List (String × Option Selection)) :
    Prop :=
  ∃ fields, store.object? id = some ⟨key, fields, false⟩ ∧ client.program.Shows store id fields (latest calls)

variable {client : Client} {store after : Store} {id : Nat} {key : ClassKey} {projection : Projection}
  {earlier inner : List (String × Option Selection)}

/-- A leaf is recorded. -/
private theorem Selects.leaf (selects : client.Selects store id key earlier) (field : String) :
    store.Spares (store.record id field none) id ∧
      client.Selects (store.record id field none) id key (earlier ++ [(field, none)]) := by
  obtain ⟨fields, found, shows⟩ := selects
  refine ⟨⟨Nat.le_of_eq (store.record_length ..).symm, fun other _ different => Store.record_other different⟩, ?_⟩
  refine ⟨recordEntry fields field none, ?_, ?_⟩
  · rw [Store.record_self found, ProjectionObject.record_eq]
  · rw [latest_concat]
    exact (shows.frame fun other above _ => Store.record_other (Nat.ne_of_gt above)).record (.leaf .nil)

/-- A field that goes on shows what is selected on its object in the end. -/
private theorem Selects.nest (named : client.WellNamed) (selects : client.Selects store id key earlier)
    {sub : ClassRef} {below : Projection} (belowDeclared : client.Declares sub.key below) {field : String}
    (spares : ((store.create sub.key).2.record id field (some store.objects.length)).Spares after
      store.objects.length)
    (inside : client.Selects after store.objects.length sub.key inner) :
    store.Spares after id ∧ client.Selects after id key (earlier ++ [(field, some (.ofCalls inner))]) := by
  obtain ⟨fields, found, shows⟩ := selects
  obtain ⟨deeper, belowFound, belowShows⟩ := inside
  have bound := Store.object_lt found
  have size : ((store.create sub.key).2.record id field (some store.objects.length)).objects.length
      = store.objects.length + 1 := by
    rw [Store.record_length, Store.create_length]
  have kept : ∀ other < store.objects.length, other ≠ id → after.object? other = store.object? other := by
    intro other old different
    rw [spares.kept other (by omega) (by omega), Store.record_other different, store.create_old old]
  have recorded : after.object? id = some ⟨key, recordEntry fields field (some store.objects.length), false⟩ := by
    rw [spares.kept id (by omega) (by omega), Store.record_self ((store.create_old bound).trans found),
      ProjectionObject.record_eq]
  have grown := spares.grown
  refine ⟨⟨by omega, kept⟩, _, recorded, ?_⟩
  rw [latest_concat]
  refine (shows.frame fun other above old => kept other old (Nat.ne_of_gt above)).record (.nest bound belowFound ?_
    belowShows .nil)
  exact ⟨named.accessFault_eq_none belowDeclared, rfl⟩

open Evaluation

mutual

/-- **Running a chain** on an object makes the calls that the chain means, and touches nothing else. -/
theorem Selects.follow (named : client.WellNamed) (chain : Chain) {projection : Projection} {key : ClassKey}
    {memory : Memory} {id depth : Nat} {earlier calls : List (String × Option Selection)}
    (declares : client.Declares key projection) (typed : client.api.chainCalls? projection chain = some calls)
    (selects : client.Selects memory.store id key earlier) (deep : chain.nesting ≤ depth) :
    ∃ value after, Evaluation.follow chain (.object id) (.upTo client.program depth) memory
        = (.ok value, { memory with store := after }) ∧
      memory.store.Spares after id ∧ client.Selects after id key (earlier ++ calls) := by
  cases chain with
  | done =>
    cases typed
    exact ⟨.object id, memory.store, rfl, .refl _ _, (List.append_nil earlier).symm ▸ selects⟩
  | call name rest =>
    obtain ⟨accessor, more, found, isLeaf, later, rfl⟩ := Api.chainCalls_call typed
    obtain ⟨inProjection, rfl⟩ := Api.Coherent.mem_of_accessor found
    obtain ⟨fields, stored, shows⟩ := selects
    have called := named.callMember_leaf declares inProjection isLeaf stored rfl
    obtain ⟨spares, selected⟩ := Selects.leaf ⟨fields, stored, shows⟩ accessor.fieldName
    have selects : client.Selects { memory with store := memory.store.record id accessor.fieldName none }.store id key
        (earlier ++ [(accessor.fieldName, none)]) := selected
    obtain ⟨value, after, ran, alsoSpares, alsoSelected⟩ := Selects.follow named rest declares later selects deep
    refine ⟨value, after, ?_, spares.trans alsoSpares, ?_⟩
    · exact (bind_of_ok (callNamed_of_value (.upTo client.program depth) stored called)).trans ran
    · rwa [List.append_assoc] at alsoSelected
  | callWith name block rest =>
    obtain ⟨accessor, sub, below, inside, more, found, goesOn, isBelow, ofBlock, later, rfl⟩ :=
      Api.chainCalls_callWith typed
    obtain ⟨inProjection, rfl⟩ := Api.Coherent.mem_of_accessor found
    obtain ⟨inClient, rfl⟩ := Api.mem_of_below isBelow
    have belowDeclared := declares_of_client inClient
    obtain ⟨fields, stored, shows⟩ := selects
    have opened := named.openMember_composite declares inProjection goesOn stored rfl
    let made := memory.store.objects.length
    let opening := (memory.store.create below.classRef.key).2.record id accessor.fieldName (some made)
    obtain ⟨blockDeep, restDeep⟩ : block.nesting + 1 ≤ depth ∧ rest.nesting ≤ depth := Nat.max_le.mp deep
    obtain ⟨levels, rfl⟩ : ∃ levels, depth = levels + 1 := ⟨depth - 1, by omega⟩
    have fresh : client.Selects { memory with store := opening }.store made below.classRef.key [] :=
      ⟨[], Store.record_create_new (Store.object_lt stored), .nil⟩
    obtain ⟨middle, ranBlock, sparesBlock, selectsBlock⟩ := Selects.runBlock named block belowDeclared ofBlock fresh
      (Nat.le_of_succ_le_succ blockDeep)
    -- The rest of the chain goes on from the new object, so its calls come behind those of the block.
    have continued : client.Selects { memory with store := middle }.store made below.classRef.key ([] ++ inside) :=
      selectsBlock
    obtain ⟨value, after, ranRest, sparesRest, selectsRest⟩ := Selects.follow named rest belowDeclared later continued
      restDeep
    obtain ⟨spares, selected⟩ := Selects.nest named ⟨fields, stored, shows⟩ belowDeclared
      (sparesBlock.trans sparesRest) selectsRest
    refine ⟨value, after, ?_, spares, selected⟩
    exact (bind_of_ok (callNamed_of_below (.upTo client.program (levels + 1)) stored opened
      (perform_block ranBlock))).trans ranRest

/-- **Running a block** on an object makes the calls of all its chains. -/
theorem Selects.runBlock (named : client.WellNamed) (block : Block) {projection : Projection} {key : ClassKey}
    {memory : Memory} {id depth : Nat} {earlier calls : List (String × Option Selection)}
    (declares : client.Declares key projection) (typed : client.api.blockCalls? projection block = some calls)
    (selects : client.Selects memory.store id key earlier) (deep : block.nesting ≤ depth) :
    ∃ after, Evaluation.runBlock block (.object id) (.upTo client.program depth) memory
        = (.ok (), { memory with store := after }) ∧
      memory.store.Spares after id ∧ client.Selects after id key (earlier ++ calls) := by
  cases block with
  | done =>
    cases typed
    exact ⟨memory.store, rfl, .refl _ _, (List.append_nil earlier).symm ▸ selects⟩
  | chain first rest =>
    obtain ⟨ofFirst, more, typedFirst, typedRest, rfl⟩ := Api.blockCalls_chain typed
    obtain ⟨value, middle, ran, spares, selected⟩ := Selects.follow named first declares typedFirst selects
      (Nat.le_trans (Nat.le_max_left ..) deep)
    have selects : client.Selects { memory with store := middle }.store id key (earlier ++ ofFirst) := selected
    obtain ⟨after, alsoRan, alsoSpares, alsoSelected⟩ := Selects.runBlock named rest declares typedRest selects
      (Nat.le_trans (Nat.le_max_right ..) deep)
    refine ⟨after, ?_, spares.trans alsoSpares, List.append_assoc .. ▸ alsoSelected⟩
    exact (bind_of_ok ran).trans alsoRan

end

/-- A program on a new object leaves the object to be written out as the selection that the program means. -/
theorem serializeAfter_of_calls (named : client.WellNamed) (declares : client.Declares key projection) {block : Block}
    {calls : List (String × Option Selection)} (typed : client.api.blockCalls? projection block = some calls)
    (memory : Memory) {depth : Nat} (deep : block.nesting ≤ depth) :
    ∃ store, serializeAfter key block (.upTo client.program depth) memory
      = (.ok (.text (Selection.ofCalls calls).serialize), { memory with store }) := by
  have made := named.instantiate_eq declares memory.store
  have fresh : client.Selects { memory with store := (memory.store.create key).2 }.store memory.store.objects.length
      key [] := ⟨[], memory.store.create_new key, .nil⟩
  obtain ⟨after, ran, _, fields, found, shows⟩ := Selects.runBlock named block declares typed fresh deep
  have written : client.program.callMember memory.store.objects.length key "serialize" after = _ :=
    named.callMember_serialize declares
  rw [Program.serialized_of_shows found ⟨named.accessFault_eq_none declares, rfl⟩ shows] at written
  refine ⟨after, ?_⟩
  rw [serializeAfter, bind_of_ok (callProjectionType_of_ok (.upTo client.program depth) made), bind_of_ok ran]
  exact callNamed_of_value (.upTo client.program depth) found written

/-- **Programs compute the selections that they mean.** Take a class of the client of any run on a schema whose names
do not begin with two underscores, where the module of the entry point knows no two classes by one name.
Whatever chains a program runs on a new object of the class, the object is then written out as the selection of
the program's calls, each field at the place of its first call with the content of its last. Going on
through an accessor again replaces what was selected there before. And every well-typed selection is
made by a program. -/
theorem programs_compute_selections {client : Client} (named : client.WellNamed) {key : ClassKey}
    {projection : Projection} (declares : client.Declares key projection) :
    (∀ block calls, client.api.blockCalls? projection block = some calls →
      ∀ memory depth, block.nesting ≤ depth →
        ∃ store, serializeAfter key block (.upTo client.program depth) memory
          = (.ok (.text (Selection.ofCalls calls).serialize), { memory with store })) ∧
    (∀ (before between after : List Chain) name first onward other elsewhere last behind calls others,
      client.api.blockCalls? projection (.ofChains (before ++ [.callWith name first onward] ++ between
        ++ [.callWith name last behind] ++ after)) = some calls →
      client.api.blockCalls? projection (.ofChains (before ++ [.callWith name other elsewhere] ++ between
        ++ [.callWith name last behind] ++ after)) = some others →
      Selection.ofCalls calls = Selection.ofCalls others) ∧
    ∀ selection, client.api.Offers projection selection →
      ∃ block calls, client.api.blockCalls? projection block = some calls ∧ Selection.ofCalls calls = selection := by
  refine ⟨fun block calls typed memory depth deep => serializeAfter_of_calls named declares typed memory deep,
    fun _ _ _ _ _ _ _ _ _ _ _ _ => ofCalls_replaced, fun selection offers => ?_⟩
  obtain ⟨distinct, block, makes⟩ := client.coherent.exists_block offers declares.mem_projections
  exact ⟨block, selection.listed, makes, by
    rw [Selection.ofCalls, latest_of_nodup distinct, Selection.ofEntries_listed]⟩

open Projection in
/-- The author is asked for twice. The place is that of the first call, and what follows the second one is
selected. -/
theorem library_programs :
    let book := Library.context.projection Library.book
    let block : Block := .ofChains [.callWith "author" (.ofChains [.callWith "books" .done .done]) .done,
      .call "title" .done, .callWith "author" .done (.callWith "books" .done (.call "title" .done))]
    Library.client.WellNamed ∧ Library.client.Declares book.classRef.key book ∧
    ∃ store, serializeAfter book.classRef.key block (.upTo Library.client.program 2) {}
      = (.ok (.text "\x7b author \x7b books \x7b title \x7d \x7d title \x7d"), { store }) := by
  intro book block
  have named := Library.client_wellNamed
  have declares : Library.client.Declares book.classRef.key book :=
    declares_of_client (List.mem_cons_of_mem _ List.mem_cons_self)
  have typed : Library.client.api.blockCalls? book block
      = some [("author", some (.nest "books" .nil .nil)), ("title", none),
          ("author", some (.nest "books" (.leaf "title" .nil) .nil))] := by decide
  refine ⟨named, declares, ?_⟩
  exact (programs_compute_selections named declares).1 block _ typed {} 2 (by decide)

open Projection Schema in
/-- Where an alias is taken, a program that selects what the schema has is broken off. -/
theorem namesakes_program_fails :
    let root := Namesakes.context.rootProjectionOf 0 Namesakes.query
    let block : Block := .ofChains [.callWith "a" (.ofChains [.call "x" .done]) .done]
    (∀ document, (Namesakes.client.load ()).outcome = .ok document →
      PlainlyNamed (TypeFilter.applyAll Namesakes.client.filters document)) ∧
    Namesakes.client.Declares Namesakes.entryKey root ∧
    Namesakes.client.api.blockCalls? root block = some [("a", some (.leaf "x" .nil))] ∧
    ∃ exception after, serializeAfter Namesakes.entryKey block (.upTo Namesakes.client.program 1) {}
      = (.error (.raised exception), after) := by
  intro root block
  have declares : Namesakes.client.Declares Namesakes.entryKey root := by
    refine ⟨Namesakes.entryModule, ?_, List.mem_cons_self, by decide⟩
    exact List.mem_filter.mpr ⟨List.mem_cons_of_mem _ List.mem_cons_self, rfl⟩
  refine ⟨Namesakes.plain, declares, by decide, ?_⟩
  have creatable : Namesakes.client.program.creationFault? Namesakes.entryKey = none := by decide
  have made : callProjectionType Namesakes.entryKey {} (.upTo Namesakes.client.program 1) {}
      = (.ok (.object 0), { store := Namesakes.entry }) := by
    refine callProjectionType_of_ok (.upTo Namesakes.client.program 1) ?_
    show Namesakes.client.program.instantiate Namesakes.entryKey {} = _
    rw [Program.instantiate, creatable]
    rfl
  let context := Evaluation.Context.upTo Namesakes.client.program 0
  let opened : Store := ⟨[⟨Namesakes.entryKey, [("a", some 1)], false⟩, { classKey := Namesakes.occupantKey }]⟩
  have absent : context.program.callMember 1 Namesakes.occupantKey "x" opened
      = Called.keep (.error (.missingMember "ClientQueryProjection" "x")) opened := by
    have clear : context.program.memberFault? 1 Namesakes.occupantKey "x" opened = none := by decide
    have free : context.program.accessor? Namesakes.occupantKey "x" = none := by decide
    have common : (BuiltinType.ownMember? "object" "x").isSome = false := by decide
    have last : context.program.accessor? Namesakes.occupantKey "__getattr__" = none := by decide
    rw [Program.callMember, clear, free]
    simp only [Program.callInherited?, Program.dataMember?, common, Program.callMissing, last]
    rfl
  have failed : ∃ exception after, callNamed (.object 1) "x" none context { store := opened }
      = (.error (.raised exception), after) ∧ after.store = opened := callNamed_of_fault context rfl absent
  obtain ⟨exception, after, raised, _⟩ := failed
  have broken : runBlock (.ofChains [.call "x" .done]) (.object 1) context { store := opened }
      = (.error (.raised exception), after) := bind_of_error (bind_of_error raised)
  refine ⟨exception, after, ?_⟩
  rw [serializeAfter, bind_of_ok made]
  exact bind_of_error (bind_of_error (bind_of_error
    (callNamed_of_broken _ rfl Namesakes.openMember (perform_broken broken))))

end Client

end SelectionGen
