import SelectionGen.Proofs.MemberCalls
import SelectionGen.Proofs.Usage

/-! Code that runs and the uses of classes that it amounts to. Whatever chains are run on an object, to their ends or
until something is raised, what they leave behind is what steps of a use lead to. So all that is known of
uses holds of code that runs. -/
namespace SelectionGen

open Target Evaluation

namespace Projection.IsAccessible

variable {name : String}

theorem callInherited_eq_none (accessible : IsAccessible name) (program : Program) (id : ObjectId) (key : ClassKey)
    (store : Store) : program.callInherited? id key name store = none := by
  unfold Program.callInherited?
  split
  · exact absurd rfl (accessible.ne_reserved (by decide))
  all_goals first | rfl | exact absurd rfl (accessible.ne_special rfl rfl)

theorem dataMember_eq_none (accessible : IsAccessible name) (declaration? : Option ClassDeclaration) :
    Program.dataMember? declaration? name = none := by
  unfold Program.dataMember?
  split
  · exact absurd rfl (accessible.ne_reserved (by decide))
  all_goals first | rfl | exact absurd rfl (accessible.ne_special rfl rfl)

theorem blockRefusal_eq_none (accessible : IsAccessible name) : Program.blockRefusal? name = none := by
  unfold Program.blockRefusal?
  split
  · exact absurd rfl (accessible.ne_reserved (by decide))
  all_goals first | rfl | exact absurd rfl (accessible.ne_special rfl rfl)

/-- What all values have begins with two underscores. -/
theorem ownMember_eq_none (accessible : IsAccessible name) : BuiltinType.ownMember? "object" name = none := by
  have special : ∀ type, BuiltinType.ofName? "object" = some type → ∀ entry ∈ type.members,
      Text.beginsWith "__" entry.1 = true ∧ (entry.1.toList.all (· == '_')) = false := by
    decide
  rw [BuiltinType.ownMember?, Option.bind_eq_none_iff]
  intro type found
  rw [List.lookup_eq_none_iff]
  intro entry member
  obtain ⟨begins, letters⟩ := special type found entry member
  simpa using accessible.ne_special begins letters

end Projection.IsAccessible

mutual

/-- All names in a chain are looked up as accessors are. -/
def Chain.IsAccessible : Chain → Prop
  | .done => True
  | .call name rest => Projection.IsAccessible name ∧ rest.IsAccessible
  | .callWith name block rest => Projection.IsAccessible name ∧ block.IsAccessible ∧ rest.IsAccessible

def Block.IsAccessible : Block → Prop
  | .done => True
  | .chain first rest => first.IsAccessible ∧ rest.IsAccessible

end

namespace Client.WellNamed

variable {client : Client} {key : ClassKey} {projection : Projection} {name : String} {id : ObjectId} {store : Store}

private theorem callMissing_eq (named : client.WellNamed) (declares : client.Declares key projection) {α : Type} :
    (client.program.callMissing id key name store : Called α)
      = Called.keep (.error (.missingMember key.name name)) store := by
  rw [Program.callMissing, named.special_eq_none declares rfl rfl]

/-- Where no accessor has the name nothing is called. -/
theorem callMember_missing (named : client.WellNamed) (declares : client.Declares key projection)
    (accessible : Projection.IsAccessible name) (missing : client.program.accessor? key name = none) :
    client.program.callMember id key name store = Called.keep (.error (.missingMember key.name name)) store := by
  rw [Program.callMember, named.memberFault_of_accessible declares accessible, missing,
    accessible.callInherited_eq_none, accessible.dataMember_eq_none, accessible.ownMember_eq_none]
  exact named.callMissing_eq declares

theorem openMember_missing (named : client.WellNamed) (declares : client.Declares key projection)
    (accessible : Projection.IsAccessible name) (missing : client.program.accessor? key name = none) :
    client.program.openMember id key name store = Called.keep (.error (.missingMember key.name name)) store := by
  rw [Program.openMember, named.memberFault_of_accessible declares accessible, missing,
    accessible.blockRefusal_eq_none, accessible.dataMember_eq_none, accessible.ownMember_eq_none]
  exact named.callMissing_eq declares

end Client.WellNamed

theorem Store.Keeps.refl (store : Store) : store.Keeps store := fun _ object found => ⟨object, found, rfl⟩

theorem Store.Keeps.trans {before between after : Store} (first : before.Keeps between)
    (second : between.Keeps after) : before.Keeps after := by
  intro id object found
  obtain ⟨kept, isThere, sameClass⟩ := first id object found
  obtain ⟨last, stillThere, stillSame⟩ := second id kept isThere
  exact ⟨last, stillThere, stillSame.trans sameClass⟩

namespace Usage

/-- Steps lead from a use to objects, with the same blocks under way behind as before. What there was is still
there. -/
def Leads (client : Client) (usage : Usage) (store : Store) : Prop :=
  ∃ next, Relation.ReflTransGen (Step client.program) usage next ∧ next.blocks = usage.blocks ∧ next.store = store ∧
    usage.store.Keeps store

variable {client : Client} {usage : Usage} {store : Store} {name : String} {block : Block} {id : Nat}
  {object : ProjectionObject} {context : Context} {memory : Memory}

theorem Leads.refl (client : Client) (usage : Usage) : usage.Leads client usage.store :=
  ⟨usage, .refl, rfl, rfl, .refl usage.store⟩

theorem Leads.keeps (leads : usage.Leads client store) : usage.store.Keeps store := by
  obtain ⟨_, _, _, _, keeps⟩ := leads
  exact keeps

/-- A block that a step began is left, be it at its end or not. -/
theorem Leads.of_block {begun : Usage} {below : ObjectId} (step : Step client.program usage begun)
    (begins : begun.blocks = below :: usage.blocks) (keeps : usage.store.Keeps begun.store)
    (inside : begun.Leads client store) : usage.Leads client store := by
  obtain ⟨last, steps, sameBlocks, found, alsoKeeps⟩ := inside
  -- Being left is a step of its own, and the same one at the end and on the way.
  have leave : Step client.program last { last with blocks := usage.blocks } :=
    .leave (sameBlocks.trans begins ▸ List.suffix_cons below usage.blocks)
  exact ⟨_, ((Relation.ReflTransGen.single step).trans steps).tail leave, rfl, found, keeps.trans alsoKeeps⟩

/-- What is done first is a use, and so is what is done then. -/
theorem Leads.bind {α β : Type} {action : Evaluated α} {rest : α → Evaluated β}
    (first : usage.Leads client (action context memory).2.store)
    (second : ∀ value middle next, action context memory = (.ok value, middle) →
      Relation.ReflTransGen (Step client.program) usage next → next.store = middle.store →
      usage.store.Keeps middle.store → next.Leads client (rest value context middle).2.store) :
    usage.Leads client ((action >>= rest) context memory).2.store := by
  cases ran : action context memory with
  | mk outcome middle =>
    rw [ran] at first
    cases outcome with
    | error interruption =>
      rw [bind_of_error ran]
      exact first
    | ok value =>
      obtain ⟨next, steps, blocks, found, keeps⟩ := first
      rw [bind_of_ok ran]
      obtain ⟨last, more, sameBlocks, stillFound, alsoKeeps⟩ := second value middle next ran steps found keeps
      exact ⟨last, steps.trans more, sameBlocks.trans blocks, stillFound, keeps.trans (found ▸ alsoKeeps)⟩

/-- A call without a block gives back the object, or it fails. -/
private theorem callNamed_leads (named : client.WellNamed) (canBeNamed : Projection.IsAccessible name)
    (reaches : Reaches client.program usage) (found : usage.store.object? id = some object)
    (same : memory.store = usage.store) (depth : Nat) :
    usage.Leads client (callNamed (.object id) name none (.upTo client.program depth) memory).2.store ∧
      ∀ value after, callNamed (.object id) name none (.upTo client.program depth) memory = (.ok value, after) →
        value = .object id := by
  have sound := Sound.of_reaches named reaches
  obtain ⟨projection, declares⟩ := sound.declared id object found
  obtain ⟨store, blocks, calls⟩ := usage
  obtain rfl : memory.store = store := same
  have failing {error : CallError} (fails : client.program.callMember id object.classKey name memory.store
      = Called.keep (.error error) memory.store) :
      Leads client ⟨memory.store, blocks, calls⟩
          (callNamed (.object id) name none (.upTo client.program depth) memory).2.store ∧
        ∀ value after, callNamed (.object id) name none (.upTo client.program depth) memory = (.ok value, after) →
          value = .object id := by
    obtain ⟨exception, after, ran, unchanged⟩ := callNamed_of_fault (.upTo client.program depth) found fails
    rw [ran]
    exact ⟨unchanged ▸ .refl client ⟨memory.store, blocks, calls⟩, nofun⟩
  cases reached : client.program.accessor? object.classKey name with
  | none => exact failing (named.callMember_missing declares canBeNamed reached)
  | some method =>
    have step := Step.call found reached
    obtain ⟨accessor, inProjection, rfl, sameField⟩ := named.exists_accessor declares reached
    cases selector : accessor.selector with
    | composite sub => exact failing (named.callMember_composite declares inProjection selector)
    | leaf =>
      have called := named.callMember_leaf declares inProjection selector found (sound.held id object found)
      rw [called] at step
      rw [callNamed_of_value (.upTo client.program depth) found called]
      refine ⟨⟨_, .single step, rfl, rfl, memory.store.keeps_record id accessor.fieldName none⟩, ?_⟩
      rintro value after ⟨⟩
      rfl

/-- Running a block on any object there is is a use. -/
def RunsAsUse (client : Client) (block : Block) : Prop :=
  ∀ {usage : Usage} {id : Nat} {object : ProjectionObject} {memory : Memory}, Reaches client.program usage →
    usage.store.object? id = some object → memory.store = usage.store → ∀ depth,
      usage.Leads client (runBlock block (.object id) (.upTo client.program depth) memory).2.store

/-- Where there is no depth left the block is not run at all. -/
private theorem perform_leads (runs : RunsAsUse client block) (reaches : Reaches client.program usage)
    (found : usage.store.object? id = some object) (same : memory.store = usage.store) (depth : Nat) :
    usage.Leads client
      ((Context.upTo client.program depth).perform (.call (.block block) [.object id] []) memory).2.store := by
  cases depth with
  | zero =>
    show usage.Leads client memory.store
    exact same ▸ .refl client usage
  | succ depth =>
    rw [perform_call]
    refine (runs reaches found same depth).bind fun _ middle next _ _ sameStore _ => ?_
    exact (sameStore ▸ .refl client next : next.Leads client middle.store)

/-- A call with a block runs the block on a new object and gives that back, or it fails before. -/
private theorem callNamed_block_leads (named : client.WellNamed) (canBeNamed : Projection.IsAccessible name)
    (runs : RunsAsUse client block) (reaches : Reaches client.program usage)
    (found : usage.store.object? id = some object) (same : memory.store = usage.store) (depth : Nat) :
    usage.Leads client (callNamed (.object id) name (some block) (.upTo client.program depth) memory).2.store ∧
      ∀ value after, callNamed (.object id) name (some block) (.upTo client.program depth) memory
          = (.ok value, after) →
        ∃ below made, value = .object below ∧ after.store.object? below = some made := by
  have sound := Sound.of_reaches named reaches
  obtain ⟨projection, declares⟩ := sound.declared id object found
  obtain ⟨store, blocks, calls⟩ := usage
  obtain rfl : memory.store = store := same
  have failing {error : CallError} (fails : client.program.openMember id object.classKey name memory.store
      = Called.keep (.error error) memory.store) :
      Leads client ⟨memory.store, blocks, calls⟩
          (callNamed (.object id) name (some block) (.upTo client.program depth) memory).2.store ∧
        ∀ value after, callNamed (.object id) name (some block) (.upTo client.program depth) memory
            = (.ok value, after) →
          ∃ below made, value = .object below ∧ after.store.object? below = some made := by
    obtain ⟨exception, after, ran, unchanged⟩ := callNamed_of_refusal (.upTo client.program depth) found fails
    rw [ran]
    exact ⟨unchanged ▸ .refl client ⟨memory.store, blocks, calls⟩, nofun⟩
  cases reached : client.program.accessor? object.classKey name with
  | none => exact failing (named.openMember_missing declares canBeNamed reached)
  | some method =>
    have step := Step.callWith found reached
    obtain ⟨accessor, inProjection, rfl, sameField⟩ := named.exists_accessor declares reached
    cases selector : accessor.selector with
    | leaf => exact failing (named.openMember_leaf declares inProjection selector)
    | composite sub =>
      have opened := named.openMember_composite declares inProjection selector found (sound.held id object found)
      rw [opened] at step
      let made := memory.store.objects.length
      let begun := (memory.store.create sub.key).2.record id accessor.fieldName (some made)
      have keeps : memory.store.Keeps begun :=
        (memory.store.keeps_create sub.key).trans (Store.keeps_record _ id accessor.fieldName (some made))
      have fresh : begun.object? made = some { classKey := sub.key } :=
        Store.record_create_new (Store.object_lt found)
      have inside := perform_leads runs (reaches.tail step) fresh
        (show { memory with store := begun }.store = _ from rfl) depth
      have leads := inside.of_block step rfl keeps
      cases ran : (Context.upTo client.program depth).perform (.call (.block block) [.object made] [])
        { memory with store := begun } with
      | mk outcome after =>
        rw [ran] at inside leads
        cases outcome with
        | error interruption =>
          rw [callNamed_of_broken (.upTo client.program depth) found opened ran]
          exact ⟨leads, nofun⟩
        | ok _ =>
          rw [callNamed_of_below (.upTo client.program depth) found opened ran]
          refine ⟨leads, ?_⟩
          rintro value after ⟨⟩
          obtain ⟨kept, isThere, _⟩ := inside.keeps made _ fresh
          exact ⟨made, kept, rfl, isThere⟩

mutual

/-- **Following a chain** from an object is a use of the classes, however it ends. -/
theorem follow_leads (named : client.WellNamed) (chain : Chain) (accessible : chain.IsAccessible) {usage : Usage}
    {id : Nat} {object : ProjectionObject} {memory : Memory} (reaches : Reaches client.program usage)
    (found : usage.store.object? id = some object) (same : memory.store = usage.store) (depth : Nat) :
    usage.Leads client (follow chain (.object id) (.upTo client.program depth) memory).2.store := by
  cases chain with
  | done =>
    show usage.Leads client memory.store
    exact same ▸ .refl client usage
  | call name rest =>
    obtain ⟨canBeNamed, accessible⟩ := accessible
    obtain ⟨leads, ends⟩ := callNamed_leads named canBeNamed reaches found same depth
    refine leads.bind fun value middle next ran steps sameStore keeps => ?_
    obtain rfl := ends value middle ran
    obtain ⟨kept, isThere, _⟩ := keeps id object found
    exact follow_leads named rest accessible (reaches.trans steps) (sameStore ▸ isThere) sameStore.symm depth
  | callWith name block rest =>
    obtain ⟨canBeNamed, inBlock, accessible⟩ := accessible
    obtain ⟨leads, ends⟩ := callNamed_block_leads named canBeNamed (runBlock_leads named block inBlock) reaches found
      same depth
    refine leads.bind fun value middle next ran steps sameStore keeps => ?_
    obtain ⟨below, made, rfl, isThere⟩ := ends value middle ran
    exact follow_leads named rest accessible (reaches.trans steps) (sameStore ▸ isThere) sameStore.symm depth

/-- **Running a block** on an object is a use of the classes, however it ends. -/
theorem runBlock_leads (named : client.WellNamed) (block : Block) (accessible : block.IsAccessible) :
    RunsAsUse client block := by
  intro usage id object memory reaches found same depth
  cases block with
  | done =>
    show usage.Leads client memory.store
    exact same ▸ .refl client usage
  | chain first rest =>
    obtain ⟨ofFirst, ofRest⟩ := accessible
    have leads := follow_leads named first ofFirst reaches found same depth
    refine leads.bind fun _ middle next _ steps sameStore keeps => ?_
    obtain ⟨kept, isThere, _⟩ := keeps id object found
    exact runBlock_leads named rest ofRest (reaches.trans steps) (sameStore ▸ isThere) sameStore.symm depth

end

/-- **Code that runs selects what the schema has.** Whatever chains are followed from an object that some use led to,
and wherever they stop, all that is recorded then is well-typed. -/
theorem wellTyped_of_follow (named : client.WellNamed) (chain : Chain) (accessible : chain.IsAccessible)
    (reaches : Reaches client.program usage) (found : usage.store.object? id = some object)
    (same : memory.store = usage.store) (depth : Nat) :
    ∃ next, Reaches client.program next ∧ next.WellTyped client ∧
      next.store = (follow chain (.object id) (.upTo client.program depth) memory).2.store := by
  obtain ⟨next, steps, _, sameStore, _⟩ := follow_leads named chain accessible reaches found same depth
  have reaches := reaches.trans steps
  exact ⟨next, reaches, (Sound.of_reaches named reaches).wellTyped named, sameStore⟩

end Usage

end SelectionGen
