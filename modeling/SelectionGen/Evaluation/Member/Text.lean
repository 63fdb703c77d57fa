import SelectionGen.Evaluation.Arguments
import SelectionGen.Text.Identifier
import SelectionGen.Text.LetterCase
import SelectionGen.Text.Search
import SelectionGen.Text.Utf8

/-! Members of texts: searching, taking apart and putting together, changing case, asking what kinds of characters
there are, and encoding. -/
namespace SelectionGen.Evaluation

open Target

namespace TextMember

def ofList (text : List Char) : Value := .text (String.ofList text)

/-- Texts as a list. -/
def listOf (texts : List (List Char)) : Evaluated Value := newList (texts.map ofList)

/-- The text that is looked for. -/
def part (value : Value) : Evaluated (List Char) := do
  match ← core value with
  | .text text => return text.toList
  | _ => refuse ("must be str, not " ++ (← typeName value))

/-- The part of a text between optional bounds, and where it begins; nothing if the bounds leave nothing, not
even an empty text. -/
def between? (size : Nat) (first last : Option Value) : Evaluated (Option (Nat × Nat)) := do
  let first ← boundOr 0 size first
  let last ← boundOr size size last
  return if first ≤ last then some (first, last) else none

/-- Looks for a text between optional bounds. -/
def search (look : List Char → List Char → Option Nat) (text : List Char) (given : Given) :
    Evaluated (Option Nat) := do
  let wanted ← part ((given.at? 0).getD .nothing)
  match ← between? text.length (given.at? 1) (given.at? 2) with
  | none => return none
  | some (first, last) => return (look wanted ((text.take last).drop first)).map (· + first)

/-- What stands around a separator, with the separator; or the text and two empty ones, which may come first. -/
def parted (found : Option Nat) (separator text : List Char) (emptyFirst : Bool) : Evaluated Value := do
  if separator.isEmpty then raise "ValueError" "empty separator"
  match found with
  | some place =>
    let (before, behind) := Text.Search.around separator text place
    return .tuple [ofList before, ofList separator, ofList behind]
  | none =>
    return .tuple (if emptyFirst then [.text "", .text "", ofList text]
      else [ofList text, .text "", .text ""])

/-- The pieces of a text. -/
def pieces (fromEnd : Bool) (text : List Char) (given : Given) : Evaluated Value := do
  match ← given.arranged (if fromEnd then "rsplit" else "split") 0 ["sep", "maxsplit"] with
  | [separator, limit] =>
    let limit ← limitOr text.length limit
    match separator.getD .nothing with
    | .nothing =>
      listOf (if fromEnd then Text.Search.wordsBack Text.isBlank limit text
        else Text.Search.words Text.isBlank limit text)
    | separator =>
      match ← core separator with
      | .text separator =>
        if separator = "" then raise "ValueError" "empty separator"
        listOf (if fromEnd then Text.Search.splitBackOn separator.toList limit text
          else Text.Search.splitOn separator.toList limit text)
      | _ => refuse ("must be str or None, not " ++ (← typeName separator))
  | _ => giveUp

/-- Texts put together with a text between them. -/
def joined (text : String) (source : Value) : Evaluated Value := do
  let elements ← tryCatch (elementsOf source) fun interruption => do
    match interruption with
    | .raised exception =>
      if (← isFailureOf exception "TypeError") && (← memberIfAny? source "__iter__").isNone then
        refuse "can only join an iterable"
      else throw interruption
    | other => throw other
  let texts ← elements.zipIdx.mapM fun (element, place) => do
    match ← core element with
    | .text part => return part
    | _ =>
      refuse ("sequence item " ++ toString place ++ ": expected str instance, "
        ++ (← typeName element) ++ " found")
  return .text (text.intercalate texts)

/-- The character that a text is filled up with. -/
def fillOf (value : Option Value) : Evaluated Char := do
  match value with
  | none => return ' '
  | some value =>
    match ← core value with
    | .text text =>
      match text.toList with
      | [c] => return c
      | _ => refuse "The fill character must be exactly one character long"
    | _ =>
      refuse ("The fill character must be a unicode character, not " ++ (← typeName value))

/-- How much is put in front of something and behind it to fill up a width. -/
def filling (name : String) (size : Nat) (width : Int) : Nat × Nat :=
  let missing := (width - size).toNat
  match name with
  | "ljust" => (0, missing)
  | "rjust" => (missing, 0)
  | _ =>
    let front := missing / 2 + (if missing % 2 = 1 ∧ width % 2 = 1 then 1 else 0)
    (front, missing - front)

/-- A text without characters at its ends. -/
def stripped (name : String) (text : List Char) (given : Given) : Evaluated Value := do
  let test ← match given.at? 0 with
    | none | some .nothing => pure Text.isBlank
    | some value =>
      match ← core value with
      | .text kept => pure fun c => kept.toList.contains c
      | _ => refuse (name ++ " arg must be None or str")
  return ofList (match name with
    | "lstrip" => text.dropWhile test
    | "rstrip" => (text.reverse.dropWhile test).reverse
    | _ => Text.stripWith test text)

/-- Whether a text begins or ends with one of some texts. -/
def hasEnd (name : String) (text : List Char) (given : Given) : Evaluated Value := do
  let isThere (wanted : List Char) : Evaluated Bool := do
    match ← between? text.length (given.at? 1) (given.at? 2) with
    | none => return false
    | some (first, last) =>
      let within := (text.take last).drop first
      return if name = "startswith" then wanted.isPrefixOf within else wanted.isSuffixOf within
  let wanted := (given.at? 0).getD .nothing
  match ← core wanted with
  | .text wanted => return .truth (← isThere wanted.toList)
  | .tuple elements =>
    let found ← elements.anyM fun element => do
      match ← core element with
      | .text wanted => isThere wanted.toList
      | _ =>
        refuse ("tuple for " ++ name ++ " must only contain str, not " ++ (← typeName element))
    return .truth found
  | _ =>
    refuse (name ++ " first arg must be str or a tuple of str, not " ++ (← typeName wanted))

/-- The ends of lines in a text. -/
def isLineEnd (c : Char) : Bool :=
  ('\n' ≤ c && c ≤ '\r') || ('\x1c' ≤ c && c ≤ '\x1e') || c == '\x85' || c == '\u2028' || c == '\u2029'

/-- What a table of characters holds for one of them. -/
def translatedOne (table : Value) (c : Char) : Evaluated (List Char) := do
  let attempt := elementOf table (.whole c.toNat)
  match ← endingAt ["LookupError"] attempt with
  | none => return [c]
  | some .nothing => return []
  | some found =>
    match ← core found with
    | .text text => return text.toList
    | other =>
      match other.whole? with
      | some number =>
        if number < 0 ∨ 0x110000 ≤ number then
          raise "ValueError" "character mapping must be in range(0x110000)"
        return [← FormatSpecifier.characterOf number]
      | none => refuse "character mapping must return integer, None or str"

/-- The encodings by the names that are known of them, without case and with one kind of separator. -/
def encodingOf (name : String) : Option String :=
  let plain := String.ofList (name.toList.map fun c => if c = '-' ∨ c = ' ' then '_' else c.toLower)
  if ["utf_8", "utf8", "u8", "utf", "cp65001"].contains plain then some "utf-8"
  else if ["ascii", "us_ascii", "646"].contains plain then some "ascii"
  else if ["latin_1", "latin1", "iso_8859_1", "iso8859_1", "l1", "latin", "8859", "cp819"].contains plain then
    some "latin-1"
  else if ["utf_16", "utf16", "utf_32", "utf32", "utf_16_le", "utf_16_be", "utf_32_le", "utf_32_be", "cp1252",
      "windows_1252", "cp437", "utf_7", "utf7", "utf_8_sig", "idna", "punycode", "unicode_escape",
      "raw_unicode_escape", "rot13", "rot_13", "base64", "hex", "big5", "gbk", "shift_jis", "euc_jp",
      "koi8_r", "iso8859_15", "iso_8859_15", "cp1250", "cp1251", "mac_roman"].contains plain then some ""
  else none

/-- Raises that a text cannot be encoded. -/
def refuseCharacters (encoding : String) (limit : Nat) (text : List Char) : Evaluated α := do
  let start := (text.takeWhile fun c => c.toNat < limit).length
  let run := ((text.drop start).takeWhile fun c => limit ≤ c.toNat).length
  let place := if run = 1 then
      "character " ++ Text.quoted (Template.escaped (String.ofList ((text.drop start).take 1)))
        ++ " in position " ++ toString start
    else "characters in position " ++ toString start ++ "-" ++ toString (start + run - 1)
  let place := place.replace "\\\\" "\\"
  let shown := "'" ++ encoding ++ "' codec can't encode " ++ place ++ ": ordinal not in range("
    ++ toString limit ++ ")"
  raiseWith "UnicodeEncodeError"
    [.text encoding, ofList text, .whole start, .whole (start + run),
      .text ("ordinal not in range(" ++ toString limit ++ ")")]
    [("shown", .text shown)]

/-- A text as bytes. -/
def encoded (text : String) (encoding : String) : Evaluated Value := do
  let below (name : String) (limit : Nat) : Evaluated Value := do
    if text.toList.all fun c => c.toNat < limit then
      return .bytes (text.toList.map fun c => UInt8.ofNat c.toNat)
    else refuseCharacters name limit text.toList
  match encodingOf encoding with
  | some "utf-8" => return .bytes text.toUTF8.toList
  | some "ascii" => below "ascii" 128
  | some "latin-1" => below "latin-1" 256
  | some _ => giveUp
  | none => raise "LookupError" ("unknown encoding: " ++ encoding)

/-- Bytes as a text. -/
def decoded (bytes : List UInt8) (encoding : String) : Evaluated Value := do
  let failed (name : String) (start stop : Nat) (reason shown : String) : Evaluated Value :=
    raiseWith "UnicodeDecodeError"
      [.text name, .bytes bytes, .whole start, .whole stop, .text reason] [("shown", .text shown)]
  match encodingOf encoding with
  | some "utf-8" =>
    match Text.Utf8.decodeFrom bytes 0 with
    | .ok text => return ofList text
    | .error fault =>
      failed "utf-8" fault.start (fault.start + fault.width) fault.fault.message fault.message
  | some "ascii" =>
    match bytes.findIdx? fun byte => 127 < byte with
    | none => return ofList (bytes.map fun byte => Char.ofNat byte.toNat)
    | some place =>
      failed "ascii" place (place + 1) "ordinal not in range(128)"
        ("'ascii' codec can't decode byte 0x" ++ Text.Utf8.byteText (bytes[place]?.getD 0)
          ++ " in position " ++ toString place ++ ": ordinal not in range(128)")
  | some "latin-1" => return ofList (bytes.map fun byte => Char.ofNat byte.toNat)
  | some _ => giveUp
  | none => raise "LookupError" ("unknown encoding: " ++ encoding)

/-- Encodes or decodes with the encoding that is asked for. What is done with that which does not fit can be asked
for as well, but only refusing it is known here. -/
def withEncoding (function : String) (given : Given) (attempt : String → Evaluated Value) :
    Evaluated Value := do
  match ← given.arranged function 0 ["encoding", "errors"] with
  | [encoding, errors] =>
    let encoding ← match encoding with
      | none => pure "utf-8"
      | some value => textOfArgument function "argument 'encoding'" value
    let errors ← match errors with
      | none => pure "strict"
      | some value => textOfArgument function "argument 'errors'" value
    if errors = "strict" then attempt encoding
    else
      match ← endingAt ["UnicodeError"] (attempt encoding) with
      | some found => return found
      | none => giveUp
  | _ => giveUp

/-- A table of characters. -/
def tableOf (given : Given) : Evaluated Value := do
  let numbers (text : String) : List Value := text.toList.map fun c => .whole c.toNat
  match given.arguments with
  | [table] =>
    if !(← isMapping (← core table)) then
      refuse "if you give only one argument to maketrans it must be a dict"
    let found ← (← entries (← core table)).mapM fun (key, value) => do
      match key with
      | .text key =>
        match key.toList with
        | [c] => return (Value.whole c.toNat, value)
        | _ => raise "ValueError" "string keys in translate table must be of length 1"
      | _ =>
        if key.whole?.isSome then return (key, value)
        else refuse "keys in translate table must be strings or integers"
    newMapping (merged [] found)
  | first :: second :: rest =>
    match first with
    | .text first =>
      match second with
      | .text second =>
        if first.length ≠ second.length then
          raise "ValueError" "the first two maketrans arguments must have equal length"
        let dropped ← match rest with
          | [.text dropped] => pure ((numbers dropped).map fun number => (number, Value.nothing))
          | [] => pure []
          | other :: _ =>
            refuse ("maketrans() argument 3 must be str, not " ++ (← shownType other))
        newMapping (merged [] ((numbers first).zip (numbers second) ++ dropped))
      | _ => refuse ("maketrans() argument 2 must be str, not " ++ (← shownType second))
    | _ => refuse "first maketrans argument must be a string if there is a second argument"
  | [] => giveUp

/-- Whether characters are all of a kind, and there are some. -/
def all (test : Char → Bool) (text : List Char) : Value := .truth (!text.isEmpty && text.all test)

def isLetter (c : Char) : Bool := Text.isIdentifierStart c && c != '_'

def isDecimal (c : Char) : Bool := (Text.decimalDigit? c).isSome

end TextMember

open TextMember in
/-- Calls a member of a text. -/
def callOfText (name text : String) (given : Given) : Evaluated Value := do
  let characters := text.toList
  let argument := (given.at? 0).getD .nothing
  match name with
  | "encode" => withEncoding name given (encoded text)
  | "replace" =>
    let old ← textOfArgument name "argument 1" argument
    let new ← textOfArgument name "argument 2" ((given.at? 1).getD .nothing)
    let limit ← limitOr characters.length (given.at? 2)
    return ofList (Text.Search.replaced old.toList new.toList limit characters)
  | "split" => pieces false characters given
  | "rsplit" => pieces true characters given
  | "join" => joined text argument
  | "capitalize" =>
    return ofList (match characters with
      | [] => []
      | c :: rest => Text.upperCase c ++ Text.toLowerCase rest)
  | "casefold" | "lower" => return ofList (Text.toLowerCase characters)
  | "upper" => return ofList (Text.toUpperCase characters)
  | "swapcase" => return ofList (Text.swapCase characters)
  | "title" => return ofList (Text.titleCase characters)
  | "center" | "ljust" | "rjust" =>
    let width ← indexOf argument
    let fill ← fillOf (given.at? 1)
    let (front, behind) := filling name characters.length width
    return ofList (List.replicate front fill ++ characters ++ List.replicate behind fill)
  | "zfill" =>
    let width ← indexOf argument
    let zeros := List.replicate (width - characters.length).toNat '0'
    return ofList (match characters with
      | c :: rest => if c = '+' ∨ c = '-' then c :: zeros ++ rest else zeros ++ characters
      | [] => zeros)
  | "count" =>
    let wanted ← part argument
    match ← between? characters.length (given.at? 1) (given.at? 2) with
    | none => return .whole 0
    | some (first, last) =>
      return .whole (Text.Search.count wanted ((characters.take last).drop first))
  | "find" => return .whole (((← search Text.Search.find? characters given).map Int.ofNat).getD (-1))
  | "rfind" =>
    return .whole (((← search Text.Search.findLast? characters given).map Int.ofNat).getD (-1))
  | "index" | "rindex" =>
    let look := if name = "index" then Text.Search.find? (α := Char) else Text.Search.findLast?
    match ← search look characters given with
    | some place => return .whole place
    | none => raise "ValueError" "substring not found"
  | "partition" =>
    let separator ← part argument
    parted (Text.Search.find? separator characters) separator characters false
  | "rpartition" =>
    let separator ← part argument
    parted (Text.Search.findLast? separator characters) separator characters true
  | "strip" | "lstrip" | "rstrip" => stripped name characters given
  | "startswith" | "endswith" => hasEnd name characters given
  | "removeprefix" =>
    let part ← textOfArgument name "argument" argument
    return ofList (if part.toList.isPrefixOf characters then characters.drop part.length else characters)
  | "removesuffix" =>
    let part ← textOfArgument name "argument" argument
    return ofList (if part.toList.isSuffixOf characters then
      characters.take (characters.length - part.length) else characters)
  | "splitlines" =>
    match ← given.arranged name 0 ["keepends"] with
    | [keeps] =>
      let keeps ← numberOr 0 keeps
      listOf (Text.Search.linesFrom '\n' '\r' isLineEnd (keeps ≠ 0) [] characters)
    | _ => giveUp
  | "expandtabs" =>
    match ← given.arranged name 0 ["tabsize"] with
    | [width] =>
      let width ← numberOr 8 width
      let isEnd (c : Char) : Bool := c = '\n' || c = '\r'
      return ofList (Text.Search.expanded '\t' ' ' isEnd width.toNat 0 characters)
    | _ => giveUp
  | "translate" =>
    let found ← characters.mapM (translatedOne argument)
    return ofList found.flatten
  | "maketrans" => tableOf given
  | "isascii" => return .truth (characters.all fun c => c.toNat < 128)
  | "islower" => return .truth (Text.isAllOfCase Text.isLowerCase characters)
  | "isupper" => return .truth (Text.isAllOfCase Text.isUpperCase characters)
  | "istitle" => return .truth (Text.isTitleCase characters)
  | "isspace" => return all Text.isBlank characters
  | "isdecimal" | "isdigit" | "isnumeric" => return all isDecimal characters
  | "isalpha" => return all isLetter characters
  | "isalnum" => return all (fun c => isLetter c || isDecimal c) characters
  | "isidentifier" =>
    return .truth (match characters with
      | [] => false
      | c :: rest => Text.isIdentifierStart c && rest.all Text.isIdentifierContinue)
  | "isprintable" => return .truth (characters.all Text.isPrintable)
  | "format" =>
    let found : Template.Arguments :=
      { byPlace := some given.arguments
        byName := fun name =>
          match given.named.lookup name with
          | some value => return value
          | none => raiseWith "KeyError" [.text name] [] }
    return .text (← Template.filled found text)
  | "format_map" =>
    let found : Template.Arguments :=
      { byPlace := none, byName := fun name => elementOf argument (.text name) }
    return .text (← Template.filled found text)
  | "__format__" =>
    let specifier ← textOfArgument name "argument" argument
    return .text (← if specifier = "" then pure text else formatCore (.text text) (.text text) specifier)
  | "__getnewargs__" => return .tuple [.text text]
  | "__sizeof__" =>
    if characters.all fun c => c.toNat < 128 then return .whole (49 + characters.length) else giveUp
  | _ => giveUp

end SelectionGen.Evaluation
