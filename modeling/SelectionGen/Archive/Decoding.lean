import SelectionGen.Archive.Bytes

/-! Reading a compressed stream bit by bit and giving what it stands for, and the prefix codes that such streams are
written in. What was given before a fault stays, because not every reader of a stream comes to its fault. -/
namespace SelectionGen.Archive

/-- A stream can stop too early, or say something it cannot say. -/
inductive StreamFault (δ : Type)
  | ends
  | damaged (damage : δ)
deriving DecidableEq, Repr

/-- A stream, the number of bits taken from it, and what it has given so far. -/
structure Decoder where
  input : ByteArray
  position : Nat
  output : ByteArray

/-- A step of reading. -/
abbrev Decoding (δ : Type) := ExceptT (StreamFault δ) (StateM Decoder)

/-- What a stream gives: bytes, why it gives no more unless it came to its end, and where the first byte
behind it is. -/
structure Decoded (δ : Type) where
  output : ByteArray
  fault? : Option (StreamFault δ)
  stop : Nat

namespace Decoding

variable {δ : Type}

def damaged (damage : δ) : Decoding δ α := throw (.damaged damage)

/-- Takes a bit. Its place in the byte is counted from the lowest bit if `lowFirst`. -/
def bit (lowFirst : Bool) : Decoding δ Nat := do
  let decoder ← get
  match decoder.input[decoder.position / 8]? with
  | none => throw .ends
  | some byte =>
    set { decoder with position := decoder.position + 1 }
    let place := decoder.position % 8
    return (byte.toNat >>> (if lowFirst then place else 7 - place)) % 2

/-- A number whose lowest bit comes first. -/
def lowBits : Nat → Decoding δ Nat
  | 0 => return 0
  | width + 1 => do
    let low ← bit true
    return low + 2 * (← lowBits width)

/-- A number whose highest bit comes first, behind the bits that are known of it. -/
def highBitsFrom (known : Nat) : Nat → Decoding δ Nat
  | 0 => return known
  | width + 1 => do highBitsFrom (2 * known + (← bit false)) width

def highBits (width : Nat) : Decoding δ Nat := highBitsFrom 0 width

def give (byte : UInt8) : Decoding δ Unit :=
  modify fun decoder => { decoder with output := decoder.output.push byte }

/-- Gives again what was given before, byte by byte, so that a copy may run into itself. -/
def copy (distance : Nat) (tooFar : δ) : Nat → Decoding δ Unit
  | 0 => return
  | length + 1 => do
    let output := (← get).output
    if distance ≤ output.size then
      give (output[output.size - distance]?.getD 0)
      copy distance tooFar length
    else damaged tooFar

/-- What a stream from a place on gives. -/
def decode (steps : Decoding δ Unit) (input : ByteArray) (start : Nat) : Decoded δ :=
  let (result, decoder) := steps.run ⟨input, 8 * start, .empty⟩
  ⟨decoder.output, match result with
    | .ok () => none
    | .error fault => some fault, (decoder.position + 7) / 8⟩

end Decoding

/-! Prefix codes in which shorter words come first and words of one length are in the order of their
symbols, so that the lengths of the words tell the whole code. -/

/-- How many words there are of the lengths from one on, and the symbols in the order of their words. -/
structure PrefixCode where
  counts : List Nat
  symbols : Array Nat

namespace PrefixCode

/-- The length of the longest word, but at least one bit is read to find that a code has no words. -/
def longest (lengths : List Nat) : Nat := lengths.foldl max 1

/-- The code whose words have the given lengths; a symbol of length zero has no word. -/
def ofLengths (lengths : List Nat) : PrefixCode :=
  let sizes := (List.range (longest lengths)).map (· + 1)
  { counts := sizes.map fun size => lengths.count size
    symbols := (sizes.flatMap fun size => lengths.zipIdx.filterMap fun (length, symbol) =>
      if length = size then some symbol else none).toArray }

/-- The share of all words of a length that begin with words of the given lengths. -/
def room (size : Nat) (lengths : List Nat) : Nat :=
  lengths.foldl (fun taken length =>
    if length = 0 then taken else taken + Nat.pow 2 (size - length)) 0

/-- Every sequence of bits begins with exactly one word. -/
def isComplete (lengths : List Nat) : Bool :=
  room (longest lengths) lengths == Nat.pow 2 (longest lengths)

/-- No symbol has a word. -/
def isEmpty (lengths : List Nat) : Bool := lengths.all fun length => length == 0

/-- The only word is one bit long. -/
def isSingle (lengths : List Nat) : Bool :=
  (lengths.filter fun length => length != 0) == [1]

/-- Reads on in a word. `word` is twice what was read, `first` the first word of the length now reached,
and `index` the number of shorter words. -/
def symbolFrom [Monad m] (bit : m Nat) (symbols : Array Nat) :
    List Nat → Nat → Nat → Nat → m (Option Nat)
  | [], _, _, _ => return none
  | count :: longer, word, first, index => do
    let word := word + (← bit)
    if word < first + count then return symbols[index + (word - first)]?
    else symbolFrom bit symbols longer (2 * word) (2 * (first + count)) (index + count)

/-- The symbol of the next word, or none if there is no such word. -/
def symbol? [Monad m] (code : PrefixCode) (bit : m Nat) : m (Option Nat) :=
  symbolFrom bit code.symbols code.counts 0 0 0

end PrefixCode

end SelectionGen.Archive
