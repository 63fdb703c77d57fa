import SelectionGen.Evaluation.Lookup
import SelectionGen.Number.Real
import SelectionGen.Text.Printable
import SelectionGen.Text.Whole

/-! Values as texts: as code would spell them, and as messages show them. A collection within itself is
written with dots. -/
namespace SelectionGen.Evaluation

open Target

/-- How a byte is written between the given quotes. -/
def shownByte (quote : Char) (byte : UInt8) : List Char :=
  let c := Char.ofNat byte.toNat
  if c = quote ∨ c = '\\' then ['\\', c]
  else if c = '\n' then ['\\', 'n']
  else if c = '\r' then ['\\', 'r']
  else if c = '\t' then ['\\', 't']
  else if byte < 32 ∨ 126 < byte then '\\' :: 'x' :: Text.Quoted.hexDigits 2 byte.toNat
  else [c]

/-- Bytes in quotes. -/
def shownBytes (bytes : List UInt8) : String :=
  let quote := if bytes.contains 39 && !bytes.contains 34 then '"' else '\''
  String.ofList ('b' :: quote :: bytes.flatMap (shownByte quote) ++ [quote])

/-- A part of a complex number. -/
def shownPart (value : Float) : String := Number.shownReal value false

/-- A complex number; in brackets if it has a real part. -/
def shownComplex (first second : Float) : String :=
  let isNegative := second.toBits ≥ 0x8000000000000000
  if first.toBits = 0 then shownPart second ++ "j"
  else
    "(" ++ shownPart first ++ (if isNegative ∧ !second.isNaN then "" else "+") ++ shownPart second ++ "j)"

/-- The text that is written for a value. -/
def describe (value : Value) : Evaluated String := do
  match ← perform (.describe value) with
  | .text text => return text
  | _ => giveUp

/-- Texts with commas between them. -/
def listed (texts : List String) : String := ", ".intercalate texts

/-- An address in memory, which nothing depends on. -/
def shownAddress : String := "0x7f0000000000"

/-- Writes out a collection unless that is being done already. -/
def describeOnce (id : CellId) (within : String) (written : Evaluated String) : Evaluated String := do
  if (← get).describing.contains id then return within
  modify fun memory => { memory with describing := id :: memory.describing }
  let restore : Evaluated Unit :=
    modify fun memory => { memory with describing := memory.describing.erase id }
  let text ← tryCatch written fun interruption => do restore; throw interruption
  restore
  return text

/-- Entries of a mapping in braces. -/
def describeEntries (found : List (Value × Value)) : Evaluated String := do
  let texts ← found.mapM fun (key, value) => do
    return (← describe key) ++ ": " ++ (← describe value)
  return "\x7b" ++ listed texts ++ "\x7d"

/-- A tuple; one element alone is followed by a comma. -/
def describeTuple (elements : List Value) : Evaluated String := do
  match elements with
  | [single] => return "(" ++ (← describe single) ++ ",)"
  | _ => return "(" ++ listed (← elements.mapM describe) ++ ")"

/-- What a view shows of an entry. -/
def viewed (kind : ViewKind) (entry : Value × Value) : Value :=
  match kind with
  | .keys => entry.1
  | .values => entry.2
  | .entries => .tuple [entry.1, entry.2]

/-- A type as messages show it. -/
def describeType (type : Value) : Evaluated String := do
  let shown ← match ← definitionOf? type with
    | some definition => pure definition.path
    | none => nameOfType type
  match ← moduleOfType type with
  | .text "builtins" => return "<class '" ++ shown ++ "'>"
  | .text moduleName => return "<class '" ++ moduleName ++ "." ++ shown ++ "'>"
  | _ => return "<class '" ++ shown ++ "'>"

/-- What was raised, as code would spell it. -/
def describeFailure (found : Instance) : Evaluated String := do
  let name ← nameOfType found.type
  match found.payload with
  | .tuple [single] => return name ++ "(" ++ (← describe single) ++ ")"
  | .tuple elements => return name ++ (← describeTuple elements)
  | _ => return name ++ "()"

/-- A thing of a type that code defines, when nothing else is known of it. -/
def describeThing (found : Instance) : Evaluated String := do
  let shown ← match ← definitionOf? found.type with
    | some definition => pure definition.path
    | none => nameOfType found.type
  let owner ← match ← moduleOfType found.type with
    | .text "builtins" => pure ""
    | .text moduleName => pure (moduleName ++ ".")
    | _ => pure ""
  return "<" ++ owner ++ shown ++ " object at " ++ shownAddress ++ ">"

/-- What a cell holds, as code would spell it. -/
def describeCell (id : CellId) (cell : Cell) : Evaluated String := do
  match cell with
  | .list elements =>
    describeOnce id "[...]" do return "[" ++ listed (← elements.mapM describe) ++ "]"
  | .mapping found => describeOnce id "\x7b...\x7d" (describeEntries found)
  | .set isFixed elements =>
    describeOnce id (if isFixed then "frozenset(...)" else "set(...)") do
      let inner := "\x7b" ++ listed (← elements.mapM describe) ++ "\x7d"
      if isFixed then return if elements.isEmpty then "frozenset()" else "frozenset(" ++ inner ++ ")"
      else return if elements.isEmpty then "set()" else inner
  | .byteArray bytes => return "bytearray(" ++ shownBytes bytes ++ ")"
  | .function function => return "<function " ++ function.path ++ " at " ++ shownAddress ++ ">"
  | .type _ => describeType (.cell id)
  | .thing found =>
    if ← derivesFrom found.type (.type "BaseException") then describeFailure found
    else
      match found.payload with
      | .nothing => describeThing found
      | payload => describe payload
  | .module name _ => return "<module '" ++ name ++ "'>"
  | .generator found =>
    return "<" ++ found.typeName ++ " object " ++ found.path ++ " at " ++ shownAddress ++ ">"
  | other => return "<" ++ (← nameOfType other.kind) ++ " object at " ++ shownAddress ++ ">"

/-- A value as code would spell it, unless its type says otherwise. -/
def describeCore (value : Value) : Evaluated String := do
  match value with
  | .nothing => return "None"
  | .undecided => return "NotImplemented"
  | .ellipsis => return "Ellipsis"
  | .truth value => return if value then "True" else "False"
  | .whole value =>
    if Nat.pow 10 Text.Whole.digitLimit ≤ value.natAbs then
      raise "ValueError"
        ("Exceeds the limit (" ++ toString Text.Whole.digitLimit
          ++ " digits) for integer string conversion; use sys.set_int_max_str_digits() to increase the limit")
    else return toString value
  | .real value => return Number.shownReal value true
  | .complex first second => return shownComplex first second
  | .text value => return Text.quoted value
  | .bytes values => return shownBytes values
  | .tuple elements => describeTuple elements
  | .range first last step =>
    return "range(" ++ toString first ++ ", " ++ toString last
      ++ (if step = 1 then "" else ", " ++ toString step) ++ ")"
  | .slice first last step => return "slice" ++ (← describeTuple [first, last, step])
  | .type _ | .projectionType _ => describeType value
  | .builtin name => return "<built-in function " ++ name ++ ">"
  | .member typeName name =>
    let kind := match memberTypeName typeName name with
      | "wrapper_descriptor" => "slot wrapper"
      | "getset_descriptor" => "attribute"
      | _ => "method"
    return "<" ++ kind ++ " '" ++ name ++ "' of '" ++ typeName ++ "' objects>"
  | .bound (.member _ name) owner =>
    return "<built-in method " ++ name ++ " of " ++ (← typeName owner) ++ " object at "
      ++ shownAddress ++ ">"
  | .bound function owner =>
    let shown ← match ← cellOf? function with
      | some (.function found) => pure found.path
      | _ => pure "?"
    return "<bound method " ++ shown ++ " of " ++ (← describe owner) ++ ">"
  | .view kind mapping =>
    let shown := (← entries mapping).map (viewed kind)
    return ViewKind.typeName kind ++ "([" ++ listed (← shown.mapM describe) ++ "])"
  | .cell id =>
    match ← cell? id with
    | some cell => describeCell id cell
    | none => giveUp
  | .object id => onStore ((← read).program.describeObject id)
  | .state _ | .fields _ => describeEntries (← entries value)
  | .block _ => return "<function at " ++ shownAddress ++ ">"
  | .foreign "" _ => giveUp
  | .foreign typeName name => return "<" ++ typeName ++ " " ++ name ++ ">"

/-- A function that code defines, in a type. -/
def isDefined (found : Value) : Bool :=
  match found with
  | .member .. => false
  | _ => true

/-- Calls a member of a type that gives a text. -/
def textFrom (name : String) (member value : Value) : Evaluated String := do
  match ← perform (.call member [value] []) with
  | .text text => return text
  | other =>
    match ← core other with
    | .text text => return text
    | _ => refuse (name ++ " returned non-string (type " ++ (← typeName other) ++ ")")

/-- A value as code would spell it. The type of the value can say how. -/
def describeValue (value : Value) : Evaluated String := do
  match ← cellOf? value with
  | some (.thing found) =>
    match ← memberOfType? found.type "__repr__" with
    | some member =>
      if isDefined member then textFrom "__repr__" member value else describeCore value
    | none => describeCore value
  | _ => describeCore value

/-- What is said of an error of the system. -/
def systemErrorText (details : List (String × Value)) : Evaluated (Option String) := do
  match details.lookup "errno", details.lookup "strerror", details.lookup "filename" with
  | some number, some reason, some .nothing =>
    return some ("[Errno " ++ (← describeValue number) ++ "] " ++ (reason.text?.getD ""))
  | some number, some reason, some fileName =>
    return some ("[Errno " ++ (← describeValue number) ++ "] " ++ (reason.text?.getD "") ++ ": "
      ++ (← describe fileName))
  | _, _, _ => return none

/-- A value as messages show it, given how those are shown that it consists of. -/
def failureText (found : Instance) (shown : Value → Evaluated String) : Evaluated String := do
  let arguments := match found.payload with
    | .tuple elements => elements
    | _ => []
  let plain : Evaluated String := match arguments with
    | [] => pure ""
    | [single] => shown single
    | _ => describeTuple arguments
  if ← derivesFrom found.type (.type "KeyError") then
    match arguments with
    | [single] => describe single
    | _ => plain
  else if ← derivesFrom found.type (.type "OSError") then
    match ← systemErrorText found.details with
    | some text => return text
    | none => plain
  else
    match found.details.lookup "shown" with
    | some (.text text) => return text
    | _ => plain

/-- A value as messages show it, to at most the given depth of arguments within arguments. -/
def textUpTo : Nat → Value → Evaluated String
  | 0, _ => giveUp
  | depth + 1, value => do
    match value with
    | .text text => return text
    | _ =>
      match ← cellOf? value with
      | some (.thing found) =>
        match ← memberOfType? found.type "__str__" with
        | some (.cell id) => textFrom "__str__" (.cell id) value
        | _ =>
          if ← derivesFrom found.type (.type "BaseException") then
            failureText found (textUpTo depth)
          else
            match ← memberOfType? found.type "__repr__", found.payload with
            | some (.cell _), _ => describe value
            | _, .text text => return text
            | _, _ => describe value
      | _ => describe value

/-- A value as messages show it. -/
def textOf (value : Value) : Evaluated String := textUpTo 100 value

end SelectionGen.Evaluation
