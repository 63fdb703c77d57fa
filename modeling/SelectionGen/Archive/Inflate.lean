import SelectionGen.Archive.Decoding

/-! Undoing the compression that zip files and compressed tapes share. The stream is a sequence of blocks
that are stored as they are or written in two prefix codes: one for bytes and lengths, one for how far
back to copy from. A code has to be complete, except that it may consist of one word of one bit. -/
namespace SelectionGen.Archive

/-- What a deflated stream cannot say. -/
inductive DeflateDamage
  | blockKind
  | storedLength
  | symbolCount
  | lengthCode
  | lengthRepeat
  | noBlockEnd
  | byteCode
  | distanceCode
  | byteWord
  | distanceWord
  | distance
deriving DecidableEq, Repr

def DeflateDamage.words : DeflateDamage → String
  | blockKind => "invalid block type"
  | storedLength => "invalid stored block lengths"
  | symbolCount => "too many length or distance symbols"
  | lengthCode => "invalid code lengths set"
  | lengthRepeat => "invalid bit length repeat"
  | noBlockEnd => "invalid code -- missing end-of-block"
  | byteCode => "invalid literal/lengths set"
  | distanceCode => "invalid distances set"
  | byteWord => "invalid literal/length code"
  | distanceWord => "invalid distance code"
  | distance => "invalid distance too far back"

def DeflateDamage.message (damage : DeflateDamage) : String :=
  "Error -3 while decompressing data: " ++ damage.words

abbrev Inflate := Decoding DeflateDamage

/-- The shortest copy of each length symbol, and how many more bits tell its length. -/
def lengthTable : Array (Nat × Nat) :=
  #[(3, 0), (4, 0), (5, 0), (6, 0), (7, 0), (8, 0), (9, 0), (10, 0), (11, 1), (13, 1), (15, 1), (17, 1),
    (19, 2), (23, 2), (27, 2), (31, 2), (35, 3), (43, 3), (51, 3), (59, 3), (67, 4), (83, 4), (99, 4),
    (115, 4), (131, 5), (163, 5), (195, 5), (227, 5), (258, 0)]

/-- The shortest distance of each distance symbol, and how many more bits tell the distance. -/
def distanceTable : Array (Nat × Nat) :=
  #[(1, 0), (2, 0), (3, 0), (4, 0), (5, 1), (7, 1), (9, 2), (13, 2), (17, 3), (25, 3), (33, 4), (49, 4),
    (65, 5), (97, 5), (129, 6), (193, 6), (257, 7), (385, 7), (513, 8), (769, 8), (1025, 9), (1537, 9),
    (2049, 10), (3073, 10), (4097, 11), (6145, 11), (8193, 12), (12289, 12), (16385, 13), (24577, 13)]

/-- The order in which a block tells the lengths of the code for lengths. -/
def lengthOrder : List Nat := [16, 17, 18, 0, 8, 7, 9, 6, 10, 5, 11, 4, 12, 3, 13, 2, 14, 1, 15]

/-- The most symbols that a block may tell words for. -/
def byteSymbolLimit : Nat := 286
def distanceSymbolLimit : Nat := 30

/-- The symbol for the end of a block. -/
def blockEnd : Nat := 256

namespace Inflate

/-- The symbol of the next word of a code. -/
def word (code : PrefixCode) (damage : DeflateDamage) : Inflate Nat := do
  match ← code.symbol? (Decoding.bit true) with
  | some symbol => return symbol
  | none => Decoding.damaged damage

/-- A number that a symbol gives through a table. -/
def fromTable (table : Array (Nat × Nat)) (symbol : Nat) (damage : DeflateDamage) : Inflate Nat := do
  match table[symbol]? with
  | some (least, width) => return least + (← Decoding.lowBits width)
  | none => Decoding.damaged damage

/-- A block in two codes. Every symbol takes at least one bit, which bounds their number. -/
def coded (bytes distances : PrefixCode) : Nat → Inflate Unit
  | 0 => throw .ends
  | bound + 1 => do
    let symbol ← word bytes .byteWord
    if symbol < blockEnd then
      Decoding.give symbol.toUInt8
      coded bytes distances bound
    else if symbol = blockEnd then return
    else
      let length ← fromTable lengthTable (symbol - (blockEnd + 1)) .byteWord
      let distance ← fromTable distanceTable (← word distances .distanceWord) .distanceWord
      Decoding.copy distance .distance length
      coded bytes distances bound

/-- A block that is stored as it is, from the next whole byte on. -/
def stored : Inflate Unit := do
  modify fun decoder => { decoder with position := (decoder.position + 7) / 8 * 8 }
  let length ← Decoding.lowBits 16
  let complement ← Decoding.lowBits 16
  if length + complement ≠ 0xFFFF then Decoding.damaged .storedLength
  let start := (← get).position / 8
  modify fun decoder =>
    { decoder with
      output := decoder.output ++ slice decoder.input start (start + length)
      position := decoder.position + 8 * length }
  if (← get).input.size < start + length then throw .ends

/-- Reads `needed` lengths on top of those known, which are given last one first. -/
def lengthsFrom (code : PrefixCode) (needed : Nat) : Nat → List Nat → Inflate (List Nat)
  | 0, known => return known.reverse
  | bound + 1, known => do
    if needed < known.length then Decoding.damaged .lengthRepeat
    else if known.length = needed then return known.reverse
    else
      match ← word code .lengthCode, known with
      | 16, last :: _ =>
        lengthsFrom code needed bound (List.replicate (3 + (← Decoding.lowBits 2)) last ++ known)
      | 16, [] => Decoding.damaged .lengthRepeat
      | 17, _ => lengthsFrom code needed bound (List.replicate (3 + (← Decoding.lowBits 3)) 0 ++ known)
      | 18, _ => lengthsFrom code needed bound (List.replicate (11 + (← Decoding.lowBits 7)) 0 ++ known)
      | length, _ => lengthsFrom code needed bound (length :: known)

/-- The lengths of the code for lengths, told in their own order. -/
def orderedLengths : List Nat → Inflate (List (Nat × Nat))
  | [] => return []
  | symbol :: rest => do
    let length ← Decoding.lowBits 3
    return (symbol, length) :: (← orderedLengths rest)

/-- The code for lengths. One without words stands for zeros of one bit each. -/
def lengthCode (lengths : List Nat) : Inflate PrefixCode := do
  if PrefixCode.isEmpty lengths then return ⟨[2], #[0, 0]⟩
  else if PrefixCode.isComplete lengths then return .ofLengths lengths
  else Decoding.damaged .lengthCode

/-- A code of the given lengths for bytes or distances. -/
def blockCode (lengths : List Nat) (damage : DeflateDamage) : Inflate PrefixCode := do
  if PrefixCode.isEmpty lengths || PrefixCode.isSingle lengths || PrefixCode.isComplete lengths then
    return .ofLengths lengths
  else Decoding.damaged damage

/-- The two codes that a block tells itself. -/
def toldCodes : Inflate (PrefixCode × PrefixCode) := do
  let byteSymbols := 257 + (← Decoding.lowBits 5)
  let distanceSymbols := 1 + (← Decoding.lowBits 5)
  let told := 4 + (← Decoding.lowBits 4)
  if byteSymbolLimit < byteSymbols ∨ distanceSymbolLimit < distanceSymbols then
    Decoding.damaged .symbolCount
  let known ← orderedLengths (lengthOrder.take told)
  let code ← lengthCode ((List.range 19).map fun symbol => (known.lookup symbol).getD 0)
  let needed := byteSymbols + distanceSymbols
  let lengths ← lengthsFrom code needed (needed + 1) []
  if (lengths[blockEnd]?.getD 0) = 0 then Decoding.damaged .noBlockEnd
  let bytes ← blockCode (lengths.take byteSymbols) .byteCode
  return (bytes, ← blockCode (lengths.drop byteSymbols) .distanceCode)

/-- The two codes of blocks that tell none. -/
def usualCodes : PrefixCode × PrefixCode :=
  (.ofLengths (List.replicate 144 8 ++ List.replicate 112 9 ++ List.replicate 24 7 ++ List.replicate 8 8),
    .ofLengths (List.replicate 30 5))

/-- Blocks up to the one that says it is the last. -/
def blocks : Nat → Inflate Unit
  | 0 => throw .ends
  | bound + 1 => do
    let last ← Decoding.bit true
    let size := 8 * (← get).input.size
    match ← Decoding.lowBits 2 with
    | 0 => stored
    | 1 => coded usualCodes.1 usualCodes.2 (size + 1)
    | 2 =>
      let (bytes, distances) ← toldCodes
      coded bytes distances (size + 1)
    | _ => Decoding.damaged .blockKind
    if last = 0 then blocks bound else return

end Inflate

/-- What the stream from a place on gives. -/
def inflate (input : ByteArray) (start : Nat) : Decoded DeflateDamage :=
  Decoding.decode (Inflate.blocks (8 * input.size + 1)) input start

end SelectionGen.Archive
