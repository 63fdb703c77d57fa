import SelectionGen.Archive.Decoding

/-! Disturbed blocks. A packer of sorted blocks may flip single bits so that no block is too regular, at
distances that every unpacker knows. -/
namespace SelectionGen.Archive.Disturbance

/-- The distances between flipped bits, which repeat. -/
def distances : List Nat :=
  [619, 720, 127, 481, 931, 816, 813, 233, 566, 247, 985, 724, 205, 454, 863, 491, 741, 242, 949,
    214, 733, 859, 335, 708, 621, 574, 73, 654, 730, 472, 419, 436, 278, 496, 867, 210, 399, 680,
    480, 51, 878, 465, 811, 169, 869, 675, 611, 697, 867, 561, 862, 687, 507, 283, 482, 129, 807,
    591, 733, 623, 150, 238, 59, 379, 684, 877, 625, 169, 643, 105, 170, 607, 520, 932, 727, 476,
    693, 425, 174, 647, 73, 122, 335, 530, 442, 853, 695, 249, 445, 515, 909, 545, 703, 919, 874,
    474, 882, 500, 594, 612, 641, 801, 220, 162, 819, 984, 589, 513, 495, 799, 161, 604, 958, 533,
    221, 400, 386, 867, 600, 782, 382, 596, 414, 171, 516, 375, 682, 485, 911, 276, 98, 553, 163,
    354, 666, 933, 424, 341, 533, 870, 227, 730, 475, 186, 263, 647, 537, 686, 600, 224, 469, 68,
    770, 919, 190, 373, 294, 822, 808, 206, 184, 943, 795, 384, 383, 461, 404, 758, 839, 887, 715,
    67, 618, 276, 204, 918, 873, 777, 604, 560, 951, 160, 578, 722, 79, 804, 96, 409, 713, 940, 652,
    934, 970, 447, 318, 353, 859, 672, 112, 785, 645, 863, 803, 350, 139, 93, 354, 99, 820, 908,
    609, 772, 154, 274, 580, 184, 79, 626, 630, 742, 653, 282, 762, 623, 680, 81, 927, 626, 789,
    125, 411, 521, 938, 300, 821, 78, 343, 175, 128, 250, 170, 774, 972, 275, 999, 639, 495, 78,
    352, 126, 857, 956, 358, 619, 580, 124, 737, 594, 701, 612, 669, 112, 134, 694, 363, 992, 809,
    743, 168, 974, 944, 375, 748, 52, 600, 747, 642, 182, 862, 81, 344, 805, 988, 739, 511, 655,
    814, 334, 249, 515, 897, 955, 664, 981, 649, 113, 974, 459, 893, 228, 433, 837, 553, 268, 926,
    240, 102, 654, 459, 51, 686, 754, 806, 760, 493, 403, 415, 394, 687, 700, 946, 670, 656, 610,
    738, 392, 760, 799, 887, 653, 978, 321, 576, 617, 626, 502, 894, 679, 243, 440, 680, 879, 194,
    572, 640, 724, 926, 56, 204, 700, 707, 151, 457, 449, 797, 195, 791, 558, 945, 679, 297, 59, 87,
    824, 713, 663, 412, 693, 342, 606, 134, 108, 571, 364, 631, 212, 174, 643, 304, 329, 343, 97,
    430, 751, 497, 314, 983, 374, 822, 928, 140, 206, 73, 263, 980, 736, 876, 478, 430, 305, 170,
    514, 364, 692, 829, 82, 855, 953, 676, 246, 369, 970, 294, 750, 807, 827, 150, 790, 288, 923,
    804, 378, 215, 828, 592, 281, 565, 555, 710, 82, 896, 831, 547, 261, 524, 462, 293, 465, 502,
    56, 661, 821, 976, 991, 658, 869, 905, 758, 745, 193, 768, 550, 608, 933, 378, 286, 215, 979,
    792, 961, 61, 688, 793, 644, 986, 403, 106, 366, 905, 644, 372, 567, 466, 434, 645, 210, 389,
    550, 919, 135, 780, 773, 635, 389, 707, 100, 626, 958, 165, 504, 920, 176, 193, 713, 857, 265,
    203, 50, 668, 108, 645, 990, 626, 197, 510, 357, 358, 850, 858, 364, 936, 638]

/-- Bytes with the lowest bit flipped in the last but one of each distance. `left` bytes of a distance
remain, and `following` are the distances behind it. -/
def undoFrom (left : Nat) (following : List Nat) : List UInt8 → List UInt8
  | [] => []
  | byte :: rest =>
    match left with
    | left + 1 => (if left = 1 then byte ^^^ 1 else byte) :: undoFrom left following rest
    | 0 =>
      let distances := if following.isEmpty then distances else following
      byte :: undoFrom (distances.headD 1 - 1) (distances.drop 1) rest

/-- The bytes of a disturbed block as they were before. -/
def undo (bytes : List UInt8) : List UInt8 := undoFrom 0 [] bytes

end SelectionGen.Archive.Disturbance

/-! Undoing compression by sorting. A stream is a sequence of blocks, each with a check sum. The bytes of a
block were sorted by what follows them, then written as places in a list that moves each byte used to
its front, with runs of the front as numbers, in up to six prefix codes that take turns every fifty
symbols. Before all that, four equal bytes in a row were followed by the number of further ones. -/
namespace SelectionGen.Archive

/-- Something that a sorted stream cannot say. -/
structure SortDamage where
deriving DecidableEq, Repr

def SortDamage.message (_ : SortDamage) : String := "Invalid data stream"

abbrev Unsort := Decoding SortDamage

namespace BlockSort

def blockMark : List UInt8 := [0x31, 0x41, 0x59, 0x26, 0x53, 0x59]
def endMark : List UInt8 := [0x17, 0x72, 0x45, 0x38, 0x50, 0x90]

/-- How many symbols are read in a code before the next one takes its turn. -/
def turnLength : Nat := 50

/-- The longest word of a code. -/
def wordLimit : Nat := 20

/-- No run of the front is told to be longer. -/
def runLimit : Nat := 2097152

def damaged : Unsort α := Decoding.damaged {}

/-- A step of the check sum of a block for one bit. -/
def sumBit (sum : UInt32) : UInt32 :=
  if sum >>> 31 = 1 then (sum <<< 1) ^^^ 0x04C11DB7 else sum <<< 1

def sumByte (sum : UInt32) (byte : UInt8) : UInt32 :=
  (List.range 8).foldl (fun sum _ => sumBit sum) (sum ^^^ (byte.toUInt32 <<< 24))

/-- The check sum of what a block stands for. -/
def blockSum (bytes : List UInt8) : UInt32 := bytes.foldl sumByte 0xFFFFFFFF ^^^ 0xFFFFFFFF

/-- Reads bytes that have to be the given ones. -/
def expect : List UInt8 → Unsort Unit
  | [] => return
  | byte :: rest => do
    if (← Decoding.highBits 8) = byte.toNat then expect rest else damaged

/-- The places of the ones among so many bits. -/
def chosen (first : Nat) : Nat → Unsort (List Nat)
  | 0 => return []
  | count + 1 => do
    let bit ← Decoding.bit false
    let rest ← chosen (first + 1) count
    return if bit = 1 then first :: rest else rest

/-- The bytes that occur: sixteen bits tell in which sixteenths of all bytes they are. -/
def bytesUsed : Unsort (List UInt8) := do
  let parts ← chosen 0 16
  let places ← parts.flatMapM fun part => chosen (16 * part) 16
  return places.map Nat.toUInt8

/-- A number below a limit, as so many ones before a zero. -/
def ones (limit : Nat) : Nat → Unsort Nat
  | 0 => damaged
  | bound + 1 => do
    if (← Decoding.bit false) = 0 then return limit - (bound + 1)
    else ones limit bound

/-- Takes the item at a place of a list and moves it to the front. -/
def moveToFront? (items : List α) (place : Nat) : Option (α × List α) :=
  items[place]?.map fun item => (item, item :: items.eraseIdx place)

/-- Which code takes each turn, told as places in a list that moves what is used to its front. -/
def turnsFrom (codes : Nat) (order : List Nat) : Nat → Unsort (List Nat)
  | 0 => return []
  | count + 1 => do
    match moveToFront? order (← ones codes codes) with
    | some (code, order) => return code :: (← turnsFrom codes order count)
    | none => damaged

/-- The length of a word, told as steps from the one before. -/
def wordLength : Nat → Nat → Unsort Nat
  | 0, _ => throw .ends
  | bound + 1, length => do
    if length < 1 ∨ wordLimit < length then damaged
    else if (← Decoding.bit false) = 0 then return length
    else if (← Decoding.bit false) = 0 then wordLength bound (length + 1)
    else wordLength bound (length - 1)

def wordLengthsFrom (bound length : Nat) : Nat → Unsort (List Nat)
  | 0 => return []
  | count + 1 => do
    let next ← wordLength bound length
    return next :: (← wordLengthsFrom bound next count)

def codesFrom (bound symbols : Nat) : Nat → Unsort (List PrefixCode)
  | 0 => return []
  | count + 1 => do
    let code := PrefixCode.ofLengths (← wordLengthsFrom bound (← Decoding.highBits 5) symbols)
    return code :: (← codesFrom bound symbols count)

/-- What is left to read of a block: the turns of codes, and the symbols left of the first turn. -/
structure Turns where
  codes : List PrefixCode
  turns : List Nat
  left : Nat

/-- The next symbol, in the code whose turn it is. -/
def nextSymbol (turns : Turns) : Unsort (Nat × Turns) := do
  let turns := if turns.left = 0 then
      { turns with turns := turns.turns.drop 1, left := turnLength } else turns
  match turns.turns.head?.bind fun turn => turns.codes[turn]? with
  | none => damaged
  | some code =>
    match ← code.symbol? (Decoding.bit false) with
    | some symbol => return (symbol, { turns with left := turns.left - 1 })
    | none => damaged

/-- The symbols of a block up to its end. The first two are the digits of the length of a run, lowest
first, where digits count one or two times the powers of two; any other is a place in the list. -/
def sortedFrom (limit endSymbol : Nat) :
    Nat → Turns → (order : List UInt8) → (weight run : Nat) → Array UInt8 → Unsort (Array UInt8)
  | 0, _, _, _, _, _ => throw .ends
  | bound + 1, turns, order, weight, run, sorted => do
    let (symbol, turns) ← nextSymbol turns
    if symbol ≤ 1 then
      if runLimit ≤ weight then damaged
      else
        sortedFrom limit endSymbol bound turns order (2 * weight) (run + (symbol + 1) * weight) sorted
    else if limit < sorted.size + run then damaged
    else
      let sorted := sorted ++ Array.replicate run (order.headD 0)
      if symbol = endSymbol then return sorted
      else if limit ≤ sorted.size then damaged
      else
        match moveToFront? order (symbol - 1) with
        | some (byte, order) => sortedFrom limit endSymbol bound turns order 1 0 (sorted.push byte)
        | none => damaged

/-- Where the occurrences of each byte begin when all bytes are sorted. -/
def bucketStarts (sorted : Array UInt8) : Array Nat :=
  let counts := sorted.foldl (fun counts byte => counts.modify byte.toNat (· + 1)) (Array.replicate 256 0)
  (counts.foldl (fun (starts, next) count => (starts.push next, next + count)) (#[], 0)).1

/-- For each place among the sorted bytes, the place of the byte that stands there. -/
def successors (sorted : Array UInt8) : Array Nat :=
  (sorted.foldl (fun (found, starts, place) byte =>
      let slot := starts[byte.toNat]?.getD 0
      (found.set! slot place, starts.set! byte.toNat (slot + 1), place + 1))
    (Array.replicate sorted.size 0, bucketStarts sorted, 0)).1

/-- The bytes in the order they had before they were sorted. -/
def inOrder (sorted : Array UInt8) (origin : Nat) : List UInt8 :=
  let next := successors sorted
  ((List.range sorted.size).foldl (fun (found, place) _ =>
      (sorted[place]?.getD 0 :: found, next[place]?.getD 0)) ([], next[origin]?.getD 0)).1.reverse

/-- Four equal bytes in a row are followed by the number of further ones. `run` counts equal bytes. -/
def expandRuns (last? : Option UInt8) (run : Nat) : List UInt8 → List UInt8
  | [] => []
  | byte :: rest =>
    if run = 4 then List.replicate byte.toNat (last?.getD 0) ++ expandRuns none 0 rest
    else byte :: expandRuns (some byte) (if last? = some byte then run + 1 else 1) rest

/-- A block behind its mark, and its check sum. `limit` is the most bytes a block sorts. -/
def block (limit : Nat) : Unsort UInt32 := do
  let sum ← Decoding.highBits 32
  let disturbed ← Decoding.bit false
  let origin ← Decoding.highBits 24
  if limit + 10 < origin then damaged
  let bytes ← bytesUsed
  if bytes.isEmpty then damaged
  let symbols := bytes.length + 2
  let codeCount ← Decoding.highBits 3
  if codeCount < 2 ∨ 6 < codeCount then damaged
  let turnCount ← Decoding.highBits 15
  if turnCount = 0 then damaged
  let turns ← turnsFrom codeCount (List.range codeCount) turnCount
  let bound := 8 * (← get).input.size + 1
  let codes ← codesFrom bound symbols codeCount
  let sorted ← sortedFrom limit (symbols - 1) bound ⟨codes, turns, turnLength⟩ bytes 1 0 #[]
  if sorted.size ≤ origin then damaged
  let ordered := inOrder sorted origin
  let found := expandRuns none 0 (if disturbed = 1 then Disturbance.undo ordered else ordered)
  found.forM Decoding.give
  if (blockSum found).toNat ≠ sum then damaged
  return blockSum found

/-- Blocks up to the mark of the end. `total` is the check sum of the blocks before. -/
def blocks (limit : Nat) : Nat → UInt32 → Unsort Unit
  | 0, _ => throw .ends
  | bound + 1, total => do
    let first ← Decoding.highBits 8
    if endMark.head? = some first.toUInt8 then
      expect (endMark.drop 1)
      if (← Decoding.highBits 32) ≠ total.toNat then damaged
    else if blockMark.head? = some first.toUInt8 then
      expect (blockMark.drop 1)
      let sum ← block limit
      blocks limit bound (((total <<< 1) ||| (total >>> 31)) ^^^ sum)
    else damaged

/-- A stream begins with a mark and tells by a digit how many hundred thousand bytes a block may sort. -/
def stream : Unsort Unit := do
  expect "BZh".toUTF8.toList
  let digit ← Decoding.highBits 8
  if digit < '1'.toNat ∨ '9'.toNat < digit then damaged
  blocks (100000 * (digit - '0'.toNat)) ((← get).input.size + 1) 0

end BlockSort

/-- What a sorted stream gives. -/
def unsort (input : ByteArray) : Decoded SortDamage := Decoding.decode BlockSort.stream input 0

end SelectionGen.Archive
