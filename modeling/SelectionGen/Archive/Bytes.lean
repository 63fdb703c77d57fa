import SelectionGen.Text.Printable

/-! Numbers, texts and check sums in byte sequences. Numbers of more than one byte begin with the lowest. -/
namespace SelectionGen.Archive

/-- The number that `width` bytes spell from a place on; bytes past the end count as zero. -/
def numberAt (bytes : ByteArray) (start : Nat) : Nat → Nat
  | 0 => 0
  | width + 1 => (bytes[start]?.getD 0).toNat + 256 * numberAt bytes (start + 1) width

/-- The bytes from one place up to another, fewer if the sequence ends before. -/
def slice (bytes : ByteArray) (start stop : Nat) : ByteArray :=
  bytes.extract (min start bytes.size) (min stop bytes.size)

/-- Whether the given bytes stand at a place. -/
def hasBytesAt (bytes : ByteArray) (start : Nat) (expected : List UInt8) : Bool :=
  (slice bytes start (start + expected.length)).toList == expected

/-- How one byte is written between quotes: as a character if it is one of ASCII. -/
def escapedByte (quote : Char) (byte : UInt8) : List Char :=
  if byte < 0x7F then Text.Quoted.escape quote (Char.ofNat byte.toNat)
  else '\\' :: 'x' :: Text.Quoted.hexDigits 2 byte.toNat

/-- Bytes in quotes, marked as bytes by a letter in front. -/
def quotedBytes (bytes : List UInt8) : String :=
  let quote := Text.Quoted.quoteFor (bytes.map fun byte => Char.ofNat byte.toNat)
  String.ofList ('b' :: quote :: bytes.flatMap (escapedByte quote) ++ [quote])

/-- A step of the cyclic check sum for one bit. -/
def checksumBit (value : UInt32) : UInt32 :=
  if value &&& 1 = 1 then (value >>> 1) ^^^ 0xEDB88320 else value >>> 1

def checksumByte (value : UInt32) (byte : UInt8) : UInt32 :=
  (List.range 8).foldl (fun value _ => checksumBit value) (value ^^^ byte.toUInt32)

/-- The cyclic check sum of 32 bits. -/
def checksum (bytes : ByteArray) : UInt32 := bytes.foldl checksumByte 0xFFFFFFFF ^^^ 0xFFFFFFFF

end SelectionGen.Archive
