import SelectionGen.Proofs.ClassTable
import SelectionGen.Proofs.Writing
import SelectionGen.Selection.Chain

/-! What chains select, without any objects. A chain makes calls on the object that it starts at. One that goes on
is a single call: what its block and what the rest of the chain do below is all part of it. Of all calls of
a field the first one gives the place and the last one the content. -/
namespace SelectionGen

/-- What calls select: each field at the place of its first call, with the content of its last one. -/
def Selection.ofCalls (calls : List (String × Option Selection)) : Selection := .ofEntries (latest calls)

namespace Api

/-- The projection of a class that accessors go on in. -/
def below? (api : Api) (sub : ClassRef) : Option Projection :=
  api.clientProjections.find? fun projection => projection.classRef == sub

mutual

/-- The calls that a chain makes on the object that it starts at, an object of the class of a projection; none if a
link of the chain is no accessor, or one of the other kind. -/
def chainCalls? (api : Api) : Projection → Chain → Option (List (String × Option Selection))
  | _, .done => some []
  | projection, .call name rest => do
    let accessor ← projection.accessor? name
    match accessor.selector with
    | .leaf => return (accessor.fieldName, none) :: (← api.chainCalls? projection rest)
    | .composite _ => none
  | projection, .callWith name block rest => do
    let accessor ← projection.accessor? name
    match accessor.selector with
    | .leaf => none
    | .composite sub =>
      let below ← api.below? sub
      let inside ← api.blockCalls? below block
      let behind ← api.chainCalls? below rest
      return [(accessor.fieldName, some (.ofCalls (inside ++ behind)))]

/-- The calls that the chains of a block make on the object that the block is run on. -/
def blockCalls? (api : Api) : Projection → Block → Option (List (String × Option Selection))
  | _, .done => some []
  | projection, .chain first rest => do
    return (← api.chainCalls? projection first) ++ (← api.blockCalls? projection rest)

end

variable {api : Api} {projection : Projection} {name : String} {block rest : Block} {chain behind : Chain}
  {calls : List (String × Option Selection)}

theorem chainCalls_call (selects : api.chainCalls? projection (.call name chain) = some calls) :
    ∃ accessor more, projection.accessor? name = some accessor ∧ accessor.selector = .leaf ∧
      api.chainCalls? projection chain = some more ∧ calls = (accessor.fieldName, none) :: more := by
  rw [chainCalls?] at selects
  obtain ⟨accessor, found, selects⟩ := Option.bind_eq_some_iff.mp selects
  cases selector : accessor.selector with
  | composite sub =>
    rw [selector] at selects
    cases selects
  | leaf =>
    rw [selector] at selects
    obtain ⟨more, later, same⟩ := Option.bind_eq_some_iff.mp selects
    exact ⟨accessor, more, found, selector, later, (Option.some.inj same).symm⟩

theorem chainCalls_callWith (selects : api.chainCalls? projection (.callWith name block chain) = some calls) :
    ∃ accessor sub below inside more, projection.accessor? name = some accessor ∧
      accessor.selector = .composite sub ∧ api.below? sub = some below ∧
      api.blockCalls? below block = some inside ∧ api.chainCalls? below chain = some more ∧
      calls = [(accessor.fieldName, some (.ofCalls (inside ++ more)))] := by
  rw [chainCalls?] at selects
  obtain ⟨accessor, found, selects⟩ := Option.bind_eq_some_iff.mp selects
  cases selector : accessor.selector with
  | leaf =>
    rw [selector] at selects
    cases selects
  | composite sub =>
    rw [selector] at selects
    obtain ⟨below, isBelow, selects⟩ := Option.bind_eq_some_iff.mp selects
    obtain ⟨inside, ofBlock, selects⟩ := Option.bind_eq_some_iff.mp selects
    obtain ⟨more, later, same⟩ := Option.bind_eq_some_iff.mp selects
    exact ⟨accessor, sub, below, inside, more, found, selector, isBelow, ofBlock, later, (Option.some.inj same).symm⟩

theorem blockCalls_chain (selects : api.blockCalls? projection (.chain chain rest) = some calls) :
    ∃ first more, api.chainCalls? projection chain = some first ∧ api.blockCalls? projection rest = some more ∧
      calls = first ++ more := by
  rw [blockCalls?] at selects
  obtain ⟨first, ofFirst, selects⟩ := Option.bind_eq_some_iff.mp selects
  obtain ⟨more, later, same⟩ := Option.bind_eq_some_iff.mp selects
  exact ⟨first, more, ofFirst, later, (Option.some.inj same).symm⟩

theorem mem_of_below {sub : ClassRef} {below : Projection} (found : api.below? sub = some below) :
    below ∈ api.clientProjections ∧ below.classRef = sub := by
  have same := List.find?_some found
  exact ⟨List.mem_of_find?_eq_some found, beq_iff_eq.mp same⟩

end Api

/-! Calling a field again. -/

/-- A block of some chains. -/
def Block.ofChains (chains : List Chain) : Block := chains.foldr .chain .done

section Replacing

variable {api : Api} {projection : Projection} {calls others : List (String × Option Selection)}

private theorem blockCalls_append {front back : List Chain}
    (selects : api.blockCalls? projection (.ofChains (front ++ back)) = some calls) :
    ∃ first second, api.blockCalls? projection (.ofChains front) = some first ∧
      api.blockCalls? projection (.ofChains back) = some second ∧ calls = first ++ second := by
  induction front generalizing calls with
  | nil => exact ⟨[], calls, rfl, selects, rfl⟩
  | cons chain front ih =>
    obtain ⟨first, more, ofChain, later, rfl⟩ := Api.blockCalls_chain selects
    obtain ⟨middle, last, ofFront, ofBack, rfl⟩ := ih later
    refine ⟨first ++ middle, last, ?_, ofBack, (List.append_assoc ..).symm⟩
    show api.blockCalls? projection (.chain chain (.ofChains front)) = _
    rw [Api.blockCalls?, ofChain, ofFront]
    rfl

/-- The calls around two chains that go on through one accessor. -/
private theorem calls_around {before between after : List Chain} {name : String} {block last : Block}
    {onward behind : Chain}
    (selects : api.blockCalls? projection (.ofChains (before ++ [.callWith name block onward] ++ between
      ++ [.callWith name last behind] ++ after)) = some calls) :
    ∃ accessor earlier old middle content later, projection.accessor? name = some accessor ∧
      api.blockCalls? projection (.ofChains before) = some earlier ∧
      api.blockCalls? projection (.ofChains between) = some middle ∧
      api.blockCalls? projection (.ofChains [.callWith name last behind])
        = some [(accessor.fieldName, content)] ∧
      api.blockCalls? projection (.ofChains after) = some later ∧
      calls = earlier ++ [(accessor.fieldName, old)] ++ middle ++ [(accessor.fieldName, content)] ++ later := by
  have single {block : Block} {rest : Chain} {calls : List (String × Option Selection)}
      (typed : api.blockCalls? projection (.ofChains [.callWith name block rest]) = some calls) :
      ∃ accessor content, projection.accessor? name = some accessor ∧ calls = [(accessor.fieldName, content)] := by
    obtain ⟨_, _, ofChain, ofNone, rfl⟩ := Api.blockCalls_chain typed
    cases ofNone
    obtain ⟨accessor, _, _, _, _, found, _, _, _, _, rfl⟩ := Api.chainCalls_callWith ofChain
    exact ⟨accessor, _, found, rfl⟩
  obtain ⟨four, later, ofFour, ofAfter, rfl⟩ := blockCalls_append selects
  obtain ⟨three, lastCalls, ofThree, ofLast, rfl⟩ := blockCalls_append ofFour
  obtain ⟨two, middle, ofTwo, ofBetween, rfl⟩ := blockCalls_append ofThree
  obtain ⟨earlier, firstCalls, ofBefore, ofFirst, rfl⟩ := blockCalls_append ofTwo
  obtain ⟨accessor, old, found, rfl⟩ := single ofFirst
  obtain ⟨again, content, alsoFound, rfl⟩ := single ofLast
  obtain rfl := Option.some.inj (found.symm.trans alsoFound)
  exact ⟨accessor, earlier, old, middle, content, later, found, ofBefore, ofBetween, ofLast, ofAfter, rfl⟩

/-- Going on through an accessor again replaces everything that was selected below it before, so it does not matter
what that was. -/
theorem ofCalls_replaced {before between after : List Chain} {name : String} {first other last : Block}
    {onward elsewhere behind : Chain}
    (selects : api.blockCalls? projection (.ofChains (before ++ [.callWith name first onward] ++ between
      ++ [.callWith name last behind] ++ after)) = some calls)
    (alsoSelects : api.blockCalls? projection (.ofChains (before ++ [.callWith name other elsewhere] ++ between
      ++ [.callWith name last behind] ++ after)) = some others) :
    Selection.ofCalls calls = Selection.ofCalls others := by
  obtain ⟨accessor, earlier, old, middle, content, later, found, ofBefore, ofBetween, ofLast, ofAfter, rfl⟩ :=
    calls_around selects
  obtain ⟨again, alsoEarlier, new, alsoMiddle, alsoContent, alsoLater, alsoFound, alsoBefore, alsoBetween, alsoLast,
    alsoAfter, rfl⟩ := calls_around alsoSelects
  rw [found] at alsoFound
  rw [ofBefore] at alsoBefore
  rw [ofBetween] at alsoBetween
  rw [ofLast] at alsoLast
  rw [ofAfter] at alsoAfter
  cases alsoFound
  cases alsoBefore
  cases alsoBetween
  cases alsoLast
  cases alsoAfter
  rw [Selection.ofCalls, Selection.ofCalls, latest_replaced]

end Replacing

/-! Every selection that a schema allows. -/

/-- The entries of a selection, each field with the selection below it. -/
def Selection.listed : Selection → List (String × Option Selection)
  | .nil => []
  | .leaf field rest => (field, none) :: rest.listed
  | .nest field below rest => (field, some below) :: rest.listed

theorem Selection.ofEntries_listed (selection : Selection) : ofEntries selection.listed = selection := by
  induction selection with
  | nil => rfl
  | leaf field rest ih => rw [listed, ofEntries, ih]
  | nest field below rest _ ih => rw [listed, ofEntries, ih]

/-- A selection is well-typed for a projection: its fields are different, and each is that of an accessor, alone if the
accessor does not go on, else with a well-typed selection for the class that it goes on in. -/
inductive Api.Offers (api : Api) : Projection → Selection → Prop
  | nil {projection : Projection} : Offers api projection .nil
  | leaf {projection : Projection} {accessor : Accessor} {rest : Selection}
      (offered : accessor ∈ projection.accessors) (isLeaf : accessor.selector = .leaf)
      (new : accessor.fieldName ∉ rest.listed.map Prod.fst) (others : Offers api projection rest) :
      Offers api projection (.leaf accessor.fieldName rest)
  | nest {projection below : Projection} {accessor : Accessor} {sub : ClassRef} {deeper rest : Selection}
      (offered : accessor ∈ projection.accessors) (goesOn : accessor.selector = .composite sub)
      (found : api.below? sub = some below) (inside : Offers api below deeper)
      (new : accessor.fieldName ∉ rest.listed.map Prod.fst) (others : Offers api projection rest) :
      Offers api projection (.nest accessor.fieldName deeper rest)

/-- Every well-typed selection is made by some chains, one for each of its fields. -/
theorem Api.Coherent.exists_block {settings : Settings} {api : Api} (coherent : api.Coherent settings)
    {projection : Projection} {selection : Selection} (offers : api.Offers projection selection)
    (inApi : projection ∈ api.projections) :
    (selection.listed.map Prod.fst).Nodup ∧ ∃ block, api.blockCalls? projection block = some selection.listed := by
  induction offers with
  | nil => exact ⟨List.nodup_nil, .done, rfl⟩
  | @leaf _ accessor rest offered isLeaf new others ih =>
    obtain ⟨distinct, block, makes⟩ := ih inApi
    refine ⟨List.nodup_cons.mpr ⟨new, distinct⟩, .chain (.call accessor.name .done) block, ?_⟩
    simp only [blockCalls?, chainCalls?, coherent.accessor_of_member inApi offered, isLeaf, makes, Option.bind_eq_bind,
      Option.bind_some]
    rfl
  | @nest _ below accessor sub deeper rest offered goesOn found inside new others ihInside ih =>
    obtain ⟨distinct, block, makes⟩ := ih inApi
    obtain ⟨deepDistinct, deepBlock, makesDeep⟩ := ihInside (List.mem_append_right _ (mem_of_below found).1)
    refine ⟨List.nodup_cons.mpr ⟨new, distinct⟩, .chain (.callWith accessor.name deepBlock .done) block, ?_⟩
    have whole : Selection.ofCalls (deeper.listed ++ []) = deeper := by
      rw [List.append_nil, Selection.ofCalls, latest_of_nodup deepDistinct, Selection.ofEntries_listed]
    simp only [blockCalls?, chainCalls?, coherent.accessor_of_member inApi offered, goesOn, found, makesDeep, makes,
      Option.bind_eq_bind, Option.bind_some, whole]
    rfl

end SelectionGen
