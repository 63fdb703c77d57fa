import SelectionGen.Evaluation.Statement

/-! Members of projection objects, called by code that runs. What the call does with objects is all that it does,
but for the block that it may run; and where it fails something is raised, with all objects as they are by
then. -/
namespace SelectionGen.Evaluation

variable {program : Program} {context : Context} {memory after : Memory} {id below : Nat} {object : ProjectionObject}
  {name : String} {store : Store} {value : Value} {block : Block} {interruption : Interruption} {error : CallError}
  {α β : Type}

theorem bind_of_ok {action : Evaluated α} {next : α → Evaluated β} {result : α}
    (ran : action context memory = (.ok result, after)) :
    (action >>= next) context memory = next result context after := by
  show ExceptT.bindCont (fun value => next value context) (action context memory).1 (action context memory).2 = _
  rw [ran]
  rfl

theorem bind_of_error {action : Evaluated α} {next : α → Evaluated β}
    (ran : action context memory = (.error interruption, after)) :
    (action >>= next) context memory = (.error interruption, after) := by
  show ExceptT.bindCont (fun value => next value context) (action context memory).1 (action context memory).2 = _
  rw [ran]
  rfl

private theorem read_run : (read : Evaluated Context) context memory = (.ok context, memory) := rfl

private theorem get_run : (get : Evaluated Memory) context memory = (.ok memory, memory) := rfl

private theorem onStore_of_ok {action : Store → Called α} {result : α}
    (called : action memory.store = Called.keep (.ok result) store) :
    onStore action context memory = (.ok result, { memory with store }) := by
  rw [onStore, bind_of_ok get_run, called]
  rfl

private theorem onStore_of_error (context : Context) {action : Store → Called α}
    (called : action memory.store = Called.keep (.error error) store) :
    ∃ exception after, onStore action context memory = (.error (.raised exception), after) ∧ after.store = store := by
  rw [onStore, bind_of_ok get_run, called]
  exact ⟨_, _, rfl, rfl⟩

private theorem callMethod_plain (found : memory.store.object? id = some object) :
    callNamed (.object id) name none context memory
      = (onStore (context.program.callMember id object.classKey name) >>= fun reached =>
          callReached id name reached {}) context memory := by
  show callMethod id name {} context memory = _
  rw [callMethod, bind_of_ok read_run, bind_of_ok get_run]
  simp only [found]

private theorem callMethod_block (found : memory.store.object? id = some object)
    (opened : context.program.openMember id object.classKey name memory.store
      = Called.keep (.ok (.below below)) store) :
    callNamed (.object id) name (some block) context memory
      = (do let _ ← perform (.call (.block block) [.object below] []); return .object below : Evaluated Value)
          context { memory with store } := by
  show callMethod id name { arguments := [.block block] } context memory = _
  rw [callMethod, bind_of_ok read_run, bind_of_ok get_run]
  simp only [found]
  exact bind_of_ok (onStore_of_ok opened)

/-- A member that gives a value when it is called. -/
theorem callNamed_of_value (context : Context) (found : memory.store.object? id = some object)
    (called : context.program.callMember id object.classKey name memory.store
      = Called.keep (.ok (.value value)) store) :
    callNamed (.object id) name none context memory = (.ok value, { memory with store }) := by
  rw [callMethod_plain found, bind_of_ok (onStore_of_ok called)]
  rfl

/-- A member that fails when it is called. -/
theorem callNamed_of_fault (context : Context) (found : memory.store.object? id = some object)
    (called : context.program.callMember id object.classKey name memory.store = Called.keep (.error error) store) :
    ∃ exception after, callNamed (.object id) name none context memory = (.error (.raised exception), after) ∧
      after.store = store := by
  obtain ⟨exception, after, raised, same⟩ := onStore_of_error context called
  rw [callMethod_plain found]
  exact ⟨exception, after, bind_of_error raised, same⟩

/-- A member that makes an object runs its block on that object and gives it back. -/
theorem callNamed_of_below (context : Context) (found : memory.store.object? id = some object)
    (opened : context.program.openMember id object.classKey name memory.store
      = Called.keep (.ok (.below below)) store)
    (ran : context.perform (.call (.block block) [.object below] []) { memory with store } = (.ok value, after)) :
    callNamed (.object id) name (some block) context memory = (.ok (.object below), after) := by
  rw [callMethod_block found opened]
  exact bind_of_ok ran

/-- If its block is broken off, so is the call, and what the block did stays. -/
theorem callNamed_of_broken (context : Context) (found : memory.store.object? id = some object)
    (opened : context.program.openMember id object.classKey name memory.store
      = Called.keep (.ok (.below below)) store)
    (ran : context.perform (.call (.block block) [.object below] []) { memory with store }
      = (.error interruption, after)) :
    callNamed (.object id) name (some block) context memory = (.error interruption, after) := by
  rw [callMethod_block found opened]
  exact bind_of_error ran

/-- A member that fails before its block begins. -/
theorem callNamed_of_refusal (context : Context) (found : memory.store.object? id = some object)
    (opened : context.program.openMember id object.classKey name memory.store = Called.keep (.error error) store) :
    ∃ exception after, callNamed (.object id) name (some block) context memory
        = (.error (.raised exception), after) ∧ after.store = store := by
  obtain ⟨exception, after, raised, same⟩ := onStore_of_error context opened
  refine ⟨exception, after, ?_, same⟩
  show callMethod id name { arguments := [.block block] } context memory = _
  rw [callMethod, bind_of_ok read_run, bind_of_ok get_run]
  simp only [found]
  exact bind_of_error raised

/-- An object is made by calling its class. -/
theorem callProjectionType_of_ok (context : Context) {key : ClassKey}
    (made : context.program.instantiate key memory.store = Called.keep (.ok id) store) :
    callProjectionType key {} context memory = (.ok (.object id), { memory with store }) := by
  show (do return .object (← onStore ((← read).program.instantiate key)) : Evaluated Value) context memory = _
  rw [bind_of_ok read_run, bind_of_ok (onStore_of_ok made)]
  rfl

/-- Code that runs in a program, to at most the given depth of tasks within tasks. -/
def Context.upTo (program : Program) (depth : Nat) : Context := ⟨program, performUpTo program depth⟩

theorem perform_call (program : Program) (depth : Nat) (block : Block) (id : Nat) :
    (Context.upTo program (depth + 1)).perform (.call (.block block) [.object id] [])
      = (do runBlock block (.object id); return .nothing : Evaluated Value) (.upTo program depth) := rfl

/-- Performing the call of a block is running its chains. -/
theorem perform_block {depth : Nat}
    (ran : runBlock block (.object id) (.upTo program depth) memory = (.ok (), after)) :
    (Context.upTo program (depth + 1)).perform (.call (.block block) [.object id] []) memory
      = (.ok .nothing, after) := by
  rw [perform_call]
  exact bind_of_ok ran

theorem perform_broken {depth : Nat}
    (ran : runBlock block (.object id) (.upTo program depth) memory = (.error interruption, after)) :
    (Context.upTo program (depth + 1)).perform (.call (.block block) [.object id] []) memory
      = (.error interruption, after) := by
  rw [perform_call]
  exact bind_of_error ran

end SelectionGen.Evaluation
