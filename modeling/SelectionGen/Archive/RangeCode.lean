import SelectionGen.Archive.Decoding

/-! Undoing compression by chances. Every bit is told by which part of a range a number lies in, where the
part that stands for zero is as large as zeros were frequent in the same situation before. The bits spell
bytes and copies of what was given before; four distances used last can be named again. -/
namespace SelectionGen.Archive

/-- What a stream in a range code cannot say, or not be asked to do. -/
inductive RangeDamage
  | options
  | corrupt
deriving DecidableEq, Repr

def RangeDamage.message : RangeDamage → String
  | options => "Invalid or unsupported options"
  | corrupt => "Corrupt input data"

/-- How a stream is written: how many bits of the byte before and of the place choose the situation of a
byte, how many bits of the place choose other situations, and how far back copies can reach. -/
structure RangeOptions where
  contextBits : Nat
  placeBits : Nat
  positionBits : Nat
  reach : Nat

/-- Options as five bytes tell them. No more than four bits choose the situation of a byte. -/
def RangeOptions.ofBytes? (bytes : ByteArray) : Option RangeOptions :=
  let packed := numberAt bytes 0 1
  let contextBits := packed % 9
  let placeBits := packed / 9 % 5
  let positionBits := packed / 45
  if bytes.size = 5 ∧ positionBits ≤ 4 ∧ contextBits + placeBits ≤ 4 then
    some ⟨contextBits, placeBits, positionBits, max (numberAt bytes 1 4) 4096⟩
  else none

/-- The range, the number in it, the chance of a zero in every situation, and the last distances. -/
structure RangeState where
  range : UInt32 := 0xFFFFFFFF
  code : UInt32 := 0
  chances : Array UInt32
  /-- How the last steps went, which is part of every situation. -/
  history : Nat := 0
  distances : Nat × Nat × Nat × Nat := (0, 0, 0, 0)

abbrev Ranged := StateT RangeState (Decoding RangeDamage)

namespace Ranged

/-- Chances are counted in parts of `2048`. -/
def chanceBits : UInt32 := 11

/-! Where the chances of each kind of situation begin. -/

def isCopyAt : Nat := 0
def isAgainAt : Nat := 192
def isNotFirstAt : Nat := 204
def isNotSecondAt : Nat := 216
def isNotThirdAt : Nat := 228
def isLongAt : Nat := 240
def slotAt : Nat := 432
def distanceAt : Nat := 688
def alignAt : Nat := 802
def lengthAt : Nat := 818
def againLengthAt : Nat := 1332
def byteAt : Nat := 1846

/-- The chances of one context of bytes. -/
def byteChances : Nat := 0x300

/-- Every chance is even at the start. -/
def startChances (options : RangeOptions) : Array UInt32 :=
  Array.replicate (byteAt + byteChances * Nat.pow 2 (options.contextBits + options.placeBits)) 1024

/-- A step that does not concern the range. -/
def plain (step : Decoding RangeDamage α) : Ranged α := StateT.lift step

def corrupt : Ranged α := plain (Decoding.damaged .corrupt)

def nextByte : Ranged UInt32 := do
  let byte ← plain (Decoding.highBits 8)
  return byte.toUInt32

/-- Widens a range that has become narrow. -/
def widen : Ranged Unit := do
  let state ← get
  if state.range < 0x1000000 then
    let byte ← nextByte
    set { state with range := state.range <<< 8, code := (state.code <<< 8) ||| byte }

/-- A bit in the situation with the given number. -/
def bit (situation : Nat) : Ranged Nat := do
  widen
  let state ← get
  let chance := state.chances[situation]?.getD 1024
  let bound := (state.range >>> chanceBits) * chance
  if state.code < bound then
    set { state with
      range := bound
      chances := state.chances.set! situation (chance + ((2048 - chance) >>> 5)) }
    return 0
  else
    set { state with
      range := state.range - bound
      code := state.code - bound
      chances := state.chances.set! situation (chance - (chance >>> 5)) }
    return 1

/-- A bit for which both values are taken to be equally likely. -/
def evenBit : Ranged Nat := do
  widen
  let state ← get
  let half := state.range >>> 1
  if state.code < half then
    set { state with range := half }
    return 0
  else
    set { state with range := half, code := state.code - half }
    return 1

def evenBitsFrom (known : Nat) : Nat → Ranged Nat
  | 0 => return known
  | width + 1 => do evenBitsFrom (2 * known + (← evenBit)) width

/-- Bits, highest first, each in a situation that those before it choose. `known` begins with a one. -/
def treeFrom (start known : Nat) : Nat → Ranged Nat
  | 0 => return known
  | width + 1 => do treeFrom start (2 * known + (← bit (start + known))) width

/-- A number of the given width in such situations. -/
def tree (start width : Nat) : Ranged Nat := do
  return (← treeFrom start 1 width) - Nat.pow 2 width

/-- The same with the lowest bit first. -/
def reverseTreeFrom (start known weight : Nat) : Nat → Ranged Nat
  | 0 => return 0
  | width + 1 => do
    let bit ← bit (start + known)
    return weight * bit + (← reverseTreeFrom start (2 * known + bit) (2 * weight) width)

def reverseTree (start width : Nat) : Ranged Nat := reverseTreeFrom start 1 1 width

/-- A byte in situations that the byte at the last distance chooses for as long as the two agree. -/
def matchedFrom (start model known : Nat) : Nat → Ranged Nat
  | 0 => return known
  | width + 1 => do
    let modelBit := model >>> width % 2
    let bit ← bit (start + 0x100 * (1 + modelBit) + known)
    if bit = modelBit then matchedFrom start model (2 * known + bit) width
    else treeFrom start (2 * known + bit) width

def size : Ranged Nat := do return (← getThe Decoder).output.size

/-- The byte given so many bytes ago, zero if there is none. -/
def byteBack (distance : Nat) : Ranged Nat := do
  let output := (← getThe Decoder).output
  return if distance < output.size then (output[output.size - 1 - distance]?.getD 0).toNat else 0

/-- A single byte. -/
def literal (options : RangeOptions) : Ranged Unit := do
  let state ← get
  let place := (← size) % Nat.pow 2 options.placeBits
  let context := place * Nat.pow 2 options.contextBits
    + (← byteBack 0) / Nat.pow 2 (8 - options.contextBits)
  let start := byteAt + byteChances * context
  let known ← if state.history < 7 then treeFrom start 1 8
    else do matchedFrom start (← byteBack state.distances.1) 1 8
  plain (Decoding.give (known - 0x100).toUInt8)
  modify fun state =>
    { state with history := if state.history < 4 then 0
        else if state.history < 10 then state.history - 3 else state.history - 6 }

/-- The length of a copy, in situations from a place on. -/
def length (start place : Nat) : Ranged Nat := do
  if (← bit start) = 0 then return 2 + (← tree (start + 2 + 8 * place) 3)
  else if (← bit (start + 1)) = 0 then return 10 + (← tree (start + 130 + 8 * place) 3)
  else return 18 + (← tree (start + 258) 8)

/-- A new distance: a slot gives its two highest bits and its width. Of a wide one the four lowest bits
are told in situations of their own. -/
def distance (length : Nat) : Ranged Nat := do
  let slot ← tree (slotAt + 64 * min (length - 2) 3) 6
  if slot < 4 then return slot
  else
    let width := slot / 2 - 1
    let high := (2 + slot % 2) * Nat.pow 2 width
    if slot < 14 then return high + (← reverseTree (distanceAt + high - slot - 1) width)
    else
      let middle ← evenBitsFrom 0 (width - 4)
      return high + 16 * middle + (← reverseTree alignAt 4)

/-- Marks the end in the place of a distance. -/
def endDistance : Nat := 0xFFFFFFFF

/-- Copies from the last distance, which has to be within reach. -/
def copyBack (options : RangeOptions) (length : Nat) : Ranged Unit := do
  let distance := (← get).distances.1
  if min (← size) options.reach ≤ distance then corrupt
  else plain (Decoding.copy (distance + 1) .corrupt length)

/-- Brings the second, third or fourth of the last distances to the front. -/
def earlierFirst (history : Nat) : Ranged Unit := do
  let (first, second, third, fourth) := (← get).distances
  if (← bit (isNotSecondAt + history)) = 0 then
    modify fun state => { state with distances := (second, first, third, fourth) }
  else if (← bit (isNotThirdAt + history)) = 0 then
    modify fun state => { state with distances := (third, first, second, fourth) }
  else modify fun state => { state with distances := (fourth, first, second, third) }

/-- Copies from a distance used before, or a single byte from the last one. -/
def again (options : RangeOptions) (place : Nat) : Ranged Unit := do
  let history := (← get).history
  if (← size) = 0 then corrupt
  let mut isSingle := false
  if (← bit (isNotFirstAt + history)) = 0 then
    isSingle := (← bit (isLongAt + 16 * history + place)) == 0
  else
    earlierFirst history
  if isSingle then
    modify fun state => { state with history := if history < 7 then 9 else 11 }
    copyBack options 1
  else
    let length ← length againLengthAt place
    modify fun state => { state with history := if history < 7 then 8 else 11 }
    copyBack options length

/-- Copies from a new distance, unless that is the mark of the end: then it says true. -/
def fresh (options : RangeOptions) (place : Nat) : Ranged Bool := do
  let length ← length lengthAt place
  let distance ← distance length
  if distance = endDistance then
    widen
    if (← get).code = 0 then return true else corrupt
  else
    modify fun state =>
      let (first, second, third, _) := state.distances
      { state with
        history := if state.history < 7 then 7 else 10
        distances := (distance, first, second, third) }
    copyBack options length
    return false

/-- Bytes and copies up to the mark of the end. -/
def steps (options : RangeOptions) : Nat → Ranged Unit
  | 0 => throw .ends
  | bound + 1 => do
    let place := (← size) % Nat.pow 2 options.positionBits
    let history := (← get).history
    if (← bit (isCopyAt + 16 * history + place)) = 0 then
      literal options
      steps options bound
    else if (← bit (isAgainAt + history)) = 1 then
      again options place
      steps options bound
    else if ← fresh options place then return
    else steps options bound

/-- A stream begins with a zero byte and the number in the range. A bit leaves a range at most as wide as
`2017` of `2048` parts, so that a byte is read at least every `400` bits. -/
def stream (options : RangeOptions) : Decoding RangeDamage Unit := do
  if (← Decoding.highBits 8) ≠ 0 then Decoding.damaged .corrupt
  let code := (← Decoding.highBits 32).toUInt32
  let bound := 400 * ((← get).input.size + 1)
  (steps options bound).run' { code, chances := startChances options }

end Ranged

/-- What a stream in a range code gives from a place on. -/
def unrange (options : RangeOptions) (input : ByteArray) (start : Nat) : Decoded RangeDamage :=
  Decoding.decode (Ranged.stream options) input start

end SelectionGen.Archive
