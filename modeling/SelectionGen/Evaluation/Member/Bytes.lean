import SelectionGen.Evaluation.Member.Text

/-! Members of bytes, fixed or in an array. Bytes count as characters of the basic alphabet where they are letters,
digits or blanks; what is looked for can be bytes or a single byte as a number. An array gives arrays. -/
namespace SelectionGen.Evaluation

open Target

namespace BytesMember

/-- The byte of a character. -/
def ofChar (c : Char) : UInt8 := UInt8.ofNat c.toNat

def toChar (byte : UInt8) : Char := Char.ofNat byte.toNat

/-- Bytes as characters, for questions of case and kind. -/
def characters (bytes : List UInt8) : List Char := bytes.map toChar

def isBlank (byte : UInt8) : Bool := Text.isPlainBlank (toChar byte)

def isLetter (byte : UInt8) : Bool := (toChar byte).isAlpha && byte < 128

def isDigit (byte : UInt8) : Bool := (toChar byte).isDigit

def isUpper (byte : UInt8) : Bool := 65 ≤ byte && byte ≤ 90

def isLower (byte : UInt8) : Bool := 97 ≤ byte && byte ≤ 122

def lower (byte : UInt8) : UInt8 := if isUpper byte then byte + 32 else byte

def upper (byte : UInt8) : UInt8 := if isLower byte then byte - 32 else byte

/-- The first letter of each word in upper case and the others in lower case. -/
def titled (bytes : List UInt8) : List UInt8 :=
  (bytes.zip (32 :: bytes)).map fun (byte, before) => if isLetter before then lower byte else upper byte

/-- Whether exactly the first letter of each word is in upper case. -/
def isTitled (bytes : List UInt8) : Bool :=
  bytes.any isLetter && (bytes.zip (32 :: bytes)).all fun (byte, before) =>
    !isLetter byte || isUpper byte != isLetter before

/-- The bytes that an argument is. -/
def bytesFrom (value : Value) : Evaluated (List UInt8) := do
  match ← bytesOf? (← core value) with
  | some bytes => return bytes
  | none => refuse ("a bytes-like object is required, not '" ++ (← typeName value) ++ "'")

/-- The bytes that are looked for, possibly one as a number. -/
def part (value : Value) : Evaluated (List UInt8) := do
  match ← bytesOf? (← core value) with
  | some bytes => return bytes
  | none =>
    if ← isPlace value then return [← byteOf value]
    else
      refuse ("argument should be integer or bytes-like object, not '" ++ (← typeName value) ++ "'")

/-- Looks for bytes between optional bounds. -/
def search (look : List UInt8 → List UInt8 → Option Nat) (bytes : List UInt8) (given : Given) :
    Evaluated (Option Nat) := do
  let bounds ← TextMember.between? bytes.length (given.at? 1) (given.at? 2)
  let wanted ← part ((given.at? 0).getD .nothing)
  match bounds with
  | none => return none
  | some (first, last) => return (look wanted ((bytes.take last).drop first)).map (· + first)

/-- The byte that bytes are filled up with. -/
def fillOf (name : String) (value : Option Value) : Evaluated UInt8 := do
  match value with
  | none => return 32
  | some value =>
    match ← bytesOf? (← core value) with
    | some [byte] => return byte
    | _ =>
      refuse (name ++ "() argument 2 must be a byte string of length 1, not " ++ (← shownType value))

/-- Whether bytes begin or end with some of those that are given. -/
def hasEnd (name : String) (bytes : List UInt8) (given : Given) : Evaluated Value := do
  let isThere (wanted : List UInt8) : Evaluated Bool := do
    match ← TextMember.between? bytes.length (given.at? 1) (given.at? 2) with
    | none => return false
    | some (first, last) =>
      let within := (bytes.take last).drop first
      return if name = "startswith" then wanted.isPrefixOf within else wanted.isSuffixOf within
  let wanted := (given.at? 0).getD .nothing
  match ← core wanted with
  | .tuple elements =>
    return .truth (← elements.anyM fun element => do isThere (← bytesFrom element))
  | found =>
    match ← bytesOf? found with
    | some wanted => return .truth (← isThere wanted)
    | none =>
      refuse (name ++ " first arg must be bytes or a tuple of bytes, not " ++ (← typeName wanted))

/-- Two digits of base sixteen for each byte. -/
def hexDigits (bytes : List UInt8) : List (List Char) :=
  bytes.map fun byte => Text.Quoted.hexDigits 2 byte.toNat

/-- Bytes in base sixteen with a separator between groups, counted from the end or, below zero, from the start. -/
def digitPairs (bytes : List UInt8) (given : Given) : Evaluated Value := do
  match ← given.arranged "hex" 0 ["sep", "bytes_per_sep"] with
  | [none, _] => return TextMember.ofList (hexDigits bytes).flatten
  | [some separator, size] =>
    let size ← numberOr 1 size
    if (← sizeOf separator) ≠ 1 then raise "ValueError" "sep must be length 1."
    let mark ← match ← core separator with
      | .text text => pure text.toList
      | other =>
        match ← bytesOf? other with
        | some bytes => pure (characters bytes)
        | none => refuse "sep must be str or bytes."
    if mark.any fun c => 127 < c.toNat then raise "ValueError" "sep must be ASCII."
    let digits := hexDigits bytes
    let count := digits.length
    let group := size.natAbs
    let parts := digits.zipIdx.map fun (pair, place) =>
      let isBorder := if size < 0 then place % group = 0 else (count - place) % group = 0
      if place ≠ 0 ∧ group ≠ 0 ∧ isBorder then mark ++ pair else pair
    return TextMember.ofList parts.flatten
  | _ => giveUp

/-- Reads bytes in base sixteen, between which there can be blanks. -/
def readBaseSixteen (place : Nat) : List Char → Evaluated (List UInt8)
  | [] => return []
  | c :: rest => do
    if Text.isPlainBlank c then readBaseSixteen (place + 1) rest
    else
      let fault (place : Nat) : Evaluated (List UInt8) :=
        raise "ValueError"
          ("non-hexadecimal number found in fromhex() arg at position " ++ toString place)
      match Text.Whole.digit? 16 c, rest with
      | none, _ => fault place
      | some _, [] => fault (place + 1)
      | some high, d :: rest =>
        match Text.Whole.digit? 16 d with
        | none => fault (place + 1)
        | some low => return UInt8.ofNat (16 * high + low) :: (← readBaseSixteen (place + 2) rest)

/-- Bytes through a table, without those that are to be dropped. -/
def translated (bytes : List UInt8) (given : Given) : Evaluated (List UInt8) := do
  match ← given.arranged "translate" 1 ["delete"] with
  | [table, dropped] =>
    let table? ← match table.getD .nothing with
      | .nothing => pure none
      | table => do
        let found ← bytesFrom table
        if found.length ≠ 256 then
          raise "ValueError" "translation table must be 256 characters long"
        pure (some found)
    let dropped ← match dropped with
      | none => pure []
      | some value => bytesFrom value
    let kept := bytes.filter fun byte => !dropped.contains byte
    return match table? with
      | none => kept
      | some table => kept.map fun byte => (table[byte.toNat]?).getD byte
  | _ => giveUp

/-- Bytes put together with others between them. -/
def joined (bytes : List UInt8) (source : Value) : Evaluated (List UInt8) := do
  let elements ← tryCatch (elementsOf source) fun interruption => do
    match interruption with
    | .raised exception =>
      if (← isFailureOf exception "TypeError") && (← memberIfAny? source "__iter__").isNone then
        refuse "can only join an iterable"
      else throw interruption
    | other => throw other
  let parts ← elements.zipIdx.mapM fun (element, place) => do
    match ← bytesOf? (← core element) with
    | some part => return part
    | none =>
      refuse ("sequence item " ++ toString place ++ ": expected a bytes-like object, "
        ++ (← typeName element) ++ " found")
  return bytes.intercalate parts

end BytesMember

open BytesMember in
/-- Calls a member of bytes, given how to make a value of bytes. -/
def callOfBytes (name : String) (bytes : List UInt8) (given : Given)
    (make : List UInt8 → Evaluated Value) : Evaluated Value := do
  let argument := (given.at? 0).getD .nothing
  let listOf (parts : List (List UInt8)) : Evaluated Value := do newList (← parts.mapM make)
  let ended (found : Option Nat) (separator : List UInt8) (emptyFirst : Bool) : Evaluated Value := do
    if separator.isEmpty then raise "ValueError" "empty separator"
    match found with
    | some place =>
      let (before, behind) := Text.Search.around separator bytes place
      return .tuple [← make before, ← make separator, ← make behind]
    | none =>
      return .tuple (← (if emptyFirst then [[], [], bytes] else [bytes, [], []]).mapM make)
  match name with
  | "decode" => TextMember.withEncoding name given (TextMember.decoded bytes)
  | "hex" => digitPairs bytes given
  | "fromhex" =>
    make (← readBaseSixteen 0 (← textOfArgument name "argument" argument).toList)
  | "maketrans" =>
    let first ← bytesFrom argument
    let second ← bytesFrom ((given.at? 1).getD .nothing)
    if first.length ≠ second.length then
      raise "ValueError" "maketrans arguments must have same length"
    let table := (List.range 256).map fun number =>
      let byte := UInt8.ofNat number
      (((first.zip second).reverse.lookup byte)).getD byte
    return .bytes table
  | "translate" => make (← translated bytes given)
  | "join" => make (← joined bytes argument)
  | "replace" =>
    let old ← bytesFrom argument
    let new ← bytesFrom ((given.at? 1).getD .nothing)
    make (Text.Search.replaced old new (← limitOr bytes.length (given.at? 2)) bytes)
  | "split" | "rsplit" =>
    match ← given.arranged name 0 ["sep", "maxsplit"] with
    | [separator, limit] =>
      let limit ← limitOr bytes.length limit
      match separator.getD .nothing with
      | .nothing =>
        listOf (if name = "rsplit" then Text.Search.wordsBack isBlank limit bytes
          else Text.Search.words isBlank limit bytes)
      | separator =>
        let separator ← bytesFrom separator
        if separator.isEmpty then raise "ValueError" "empty separator"
        listOf (if name = "rsplit" then Text.Search.splitBackOn separator limit bytes
          else Text.Search.splitOn separator limit bytes)
    | _ => giveUp
  | "splitlines" =>
    match ← given.arranged name 0 ["keepends"] with
    | [keeps] =>
      let keeps ← numberOr 0 keeps
      let isEnd (byte : UInt8) : Bool := byte = 10 || byte = 13
      listOf (Text.Search.linesFrom 10 13 isEnd (keeps ≠ 0) [] bytes)
    | _ => giveUp
  | "expandtabs" =>
    match ← given.arranged name 0 ["tabsize"] with
    | [width] =>
      let width ← numberOr 8 width
      let isEnd (byte : UInt8) : Bool := byte = 10 || byte = 13
      make (Text.Search.expanded 9 32 isEnd width.toNat 0 bytes)
    | _ => giveUp
  | "capitalize" =>
    make (match bytes with
      | [] => []
      | byte :: rest => upper byte :: rest.map lower)
  | "lower" => make (bytes.map lower)
  | "upper" => make (bytes.map upper)
  | "swapcase" => make (bytes.map fun byte => if isUpper byte then lower byte else upper byte)
  | "title" => make (titled bytes)
  | "center" | "ljust" | "rjust" =>
    let width ← indexOf argument
    let fill ← fillOf name (given.at? 1)
    let (front, behind) := TextMember.filling name bytes.length width
    make (List.replicate front fill ++ bytes ++ List.replicate behind fill)
  | "zfill" =>
    let width ← indexOf argument
    let zeros := List.replicate (width - bytes.length).toNat (48 : UInt8)
    make (match bytes with
      | byte :: rest => if byte = 43 ∨ byte = 45 then byte :: zeros ++ rest else zeros ++ bytes
      | [] => zeros)
  | "count" =>
    let bounds ← TextMember.between? bytes.length (given.at? 1) (given.at? 2)
    let wanted ← part argument
    match bounds with
    | none => return .whole 0
    | some (first, last) => return .whole (Text.Search.count wanted ((bytes.take last).drop first))
  | "find" => return .whole (((← search Text.Search.find? bytes given).map Int.ofNat).getD (-1))
  | "rfind" => return .whole (((← search Text.Search.findLast? bytes given).map Int.ofNat).getD (-1))
  | "index" | "rindex" =>
    let look := if name = "index" then Text.Search.find? (α := UInt8) else Text.Search.findLast?
    match ← search look bytes given with
    | some place => return .whole place
    | none => raise "ValueError" "subsection not found"
  | "partition" =>
    let separator ← bytesFrom argument
    ended (Text.Search.find? separator bytes) separator false
  | "rpartition" =>
    let separator ← bytesFrom argument
    ended (Text.Search.findLast? separator bytes) separator true
  | "strip" | "lstrip" | "rstrip" =>
    let test ← match argument with
      | .nothing => pure isBlank
      | value => do
        let kept ← bytesFrom value
        pure fun byte => kept.contains byte
    make (match name with
      | "lstrip" => bytes.dropWhile test
      | "rstrip" => (bytes.reverse.dropWhile test).reverse
      | _ => ((bytes.dropWhile test).reverse.dropWhile test).reverse)
  | "startswith" | "endswith" => hasEnd name bytes given
  | "removeprefix" =>
    let part ← bytesFrom argument
    make (if part.isPrefixOf bytes then bytes.drop part.length else bytes)
  | "removesuffix" =>
    let part ← bytesFrom argument
    make (if part.isSuffixOf bytes then bytes.take (bytes.length - part.length) else bytes)
  | "isascii" => return .truth (bytes.all fun byte => byte < 128)
  | "islower" => return .truth (bytes.any isLetter && bytes.all fun byte => !isUpper byte)
  | "isupper" => return .truth (bytes.any isLetter && bytes.all fun byte => !isLower byte)
  | "istitle" => return .truth (isTitled bytes)
  | "isspace" => return .truth (!bytes.isEmpty && bytes.all isBlank)
  | "isdigit" => return .truth (!bytes.isEmpty && bytes.all isDigit)
  | "isalpha" => return .truth (!bytes.isEmpty && bytes.all isLetter)
  | "isalnum" => return .truth (!bytes.isEmpty && bytes.all fun byte => isLetter byte || isDigit byte)
  | "__getnewargs__" => return .tuple [.bytes bytes]
  | "__bytes__" => return .bytes bytes
  | "__sizeof__" => return .whole (33 + bytes.length)
  | _ => giveUp

namespace BytesMember

/-- The bytes that an argument adds to an array. -/
def addedTo (value : Value) : Evaluated (List UInt8) := do
  match ← bytesOf? (← core value) with
  | some bytes => return bytes
  | none =>
    let elements ← tryCatch (elementsOf value) fun interruption => do
      match interruption with
      | .raised exception =>
        if (← isFailureOf exception "TypeError") && (← memberIfAny? value "__iter__").isNone then
          refuse ("can't extend bytearray with " ++ (← typeName value))
        else throw interruption
      | other => throw other
    elements.mapM byteOf

end BytesMember

open BytesMember in
/-- Calls a member of an array of bytes that changes it or tells of it. -/
def callOfByteArray (name : String) (id : CellId) (bytes : List UInt8) (given : Given) :
    Evaluated Value := do
  let argument := (given.at? 0).getD .nothing
  let become (bytes : List UInt8) : Evaluated Value := do
    setCell id (.byteArray bytes)
    return .nothing
  match name with
  | "append" => become (bytes ++ [← byteOf argument])
  | "extend" => become (bytes ++ (← addedTo argument))
  | "insert" =>
    let place ← indexOf argument
    let place := (Places.bounded place 0 bytes.length bytes.length).toNat
    become (bytes.insertIdx place (← byteOf ((given.at? 1).getD .nothing)))
  | "pop" =>
    let number ← numberOr (-1) (given.at? 0)
    if bytes.isEmpty then raise "IndexError" "pop from empty bytearray"
    let place := if number < 0 then number + bytes.length else number
    if place < 0 ∨ bytes.length ≤ place then raise "IndexError" "pop index out of range"
    let _ ← become (bytes.eraseIdx place.toNat)
    return .whole ((bytes[place.toNat]?).getD 0).toNat
  | "remove" =>
    let byte ← byteOf argument
    if bytes.contains byte then become (bytes.erase byte)
    else raise "ValueError" "value not found in bytearray"
  | "reverse" => become bytes.reverse
  | "clear" => become []
  | "copy" => allocate (.byteArray bytes)
  | "__alloc__" => return .whole (bytes.length + 1)
  | "__reduce__" | "__reduce_ex__" =>
    let _ ← numberOr 0 (given.at? 0)
    return .tuple [.type "bytearray",
      .tuple [TextMember.ofList (characters bytes), .text "latin-1"], .nothing]
  | "__sizeof__" => giveUp
  | _ => callOfBytes name bytes given fun bytes => allocate (.byteArray bytes)

end SelectionGen.Evaluation
