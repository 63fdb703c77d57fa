/-! Calls that follow one another. A call can take a block, whose chains all start at the value that the
block is run on. -/
namespace SelectionGen

mutual

/-- Calls one behind the other. -/
inductive Chain
  | done
  | call (name : String) (rest : Chain)
  | callWith (name : String) (block : Block) (rest : Chain)

/-- Chains that all start at the same value. -/
inductive Block
  | done
  | chain (first : Chain) (rest : Block)

end

instance : Inhabited Chain := ⟨.done⟩

instance : Inhabited Block := ⟨.done⟩

end SelectionGen
