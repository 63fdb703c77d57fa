import SelectionGen.Evaluation.Member

/-! Built-in functions on values one by one: making sources, asking them for values, and going through all. -/
namespace SelectionGen.Evaluation

open Target

/-- Whether a value can be called. -/
def isCallable (value : Value) : Evaluated Bool := do
  match value with
  | .type _ | .builtin _ | .member .. | .bound .. | .projectionType _ | .block _ => return true
  | .foreign typeName _ => if typeName = "function" ∨ typeName = "type" then return true else giveUp
  | .cell id =>
    match ← cell? id with
    | some (.function _) | some (.type _) => return true
    | some (.wrapper typeName _) => return typeName = "staticmethod"
    | some (.thing _) => return (← memberOf? value "__call__").isSome
    | _ => return false
  | _ => return false

/-- A source of values: of a value, or of what a function gives up to a value that ends it. -/
def iterOf (given : Given) : Evaluated Value := do
  match given.arguments with
  | [value] => sourceOf value
  | [function, sentinel] =>
    if ← isCallable function then newSource (.called function sentinel)
    else refuse "iter(v, w): v must be callable"
  | _ => giveUp

/-- The next value of a source; what it says at its end is kept. -/
def nextFrom (source : Value) : Evaluated Value := do
  match source, ← cellOf? source with
  | .cell id, some (.generator found) =>
    if found.typeName = "generator" then
      match ← advance id found with
      | .ok value => return value
      | .error value => raiseEnd value
    else refuse ("'" ++ found.typeName ++ "' object is not an iterator")
  | _, some (.source _) =>
    match ← next? source with
    | some value => return value
    | none => raiseEnd .nothing
  | _, _ =>
    match ← definedMember? source "__next__" with
    | some member => callDefined member source []
    | none => refuse ("'" ++ (← typeName source) ++ "' object is not an iterator")

/-- The next value of a source, or the value that stands for its end. -/
def nextGiven (given : Given) : Evaluated Value := do
  match given.arguments with
  | [source] => nextFrom source
  | [source, default] =>
    return (← endingAt ["StopIteration"] (nextFrom source)).getD default
  | _ => giveUp

/-- Whether all values of a source are something, or any of them is. -/
def quantified (isForAll : Bool) (value : Value) : Evaluated Value := do
  let source ← sourceOf value
  let isThrough ← forEach source fun found => return (← truthOf found) == isForAll
  return .truth (isThrough == isForAll)

/-- A new list of sorted values. -/
def sortedGiven (given : Given) : Evaluated Value := do
  given.checkCount "sorted" 1 1
  let values ← elementsOf ((given.at? 0).getD .nothing)
  let (key, isReverse) ← sortingGiven given
  newList (← sorted values key isReverse)

/-! Built-in functions on numbers: sizes, digits, quotients, powers, rounding, and what some numbers amount to. -/

namespace Given

/-- The arguments of a function that has names for all of them and cannot do without the first ones. -/
def required (given : Given) (function : String) (least : Nat) (names : List String) :
    Evaluated (List (Option Value)) := do
  let count := given.arguments.length + given.named.length
  if count ≤ names.length then
    ((names.take least).zipIdx).forM fun (name, place) => do
      if (given.at? place).isNone && (given.named.lookup name).isNone then
        refuse (function ++ "() missing required argument '" ++ name ++ "' (pos " ++ toString (place + 1)
          ++ ")")
  given.arranged function 0 names

end Given

/-- The size of a value that is a number. -/
def absoluteOf (value : Value) : Evaluated Value := do
  match ← definedMember? value "__abs__" with
  | some member => callDefined member value []
  | none =>
    match (← core value).quantity? with
    | some number => sizeOfNumber number
    | none => refuse ("bad operand type for abs(): '" ++ (← typeName value) ++ "'")

/-- A whole number written with a mark in front of its digits. -/
def markedDigits (base : Nat) (mark : String) (value : Value) : Evaluated Value := do
  let number ← indexOf value
  let digits := String.ofList (Nat.toDigits base number.natAbs)
  return .text ((if number < 0 then "-" else "") ++ mark ++ digits)

/-- Quotient and remainder of two values. -/
def dividedBoth (a b : Value) : Evaluated Value := do
  match ← answerFrom? "__divmod__" a b with
  | some answer => return answer
  | none =>
    match ← answerFrom? "__rdivmod__" b a with
    | some answer => return answer
    | none =>
      let refused : Evaluated Value := refuseOperator "divmod()" a b ""
      match (← core a).quantity?, (← core b).quantity? with
      | some x, some y =>
        match ← quotientAndRemainder x y with
        | .undecided => refused
        | found => return found
      | _, _ => refused

/-- A value raised to a power, possibly reduced. -/
def raisedTo (given : Given) : Evaluated Value := do
  match ← given.required "pow" 2 ["base", "exp", "mod"] with
  | [some base, some exponent, none] | [some base, some exponent, some .nothing] =>
    operate .power base exponent
  | [some base, some exponent, some modulus] =>
    match ← definedMember? base "__pow__" with
    | some member => callDefined member base [exponent, modulus]
    | none =>
      match (← core base).quantity?, (← core exponent).quantity?, (← core modulus).quantity? with
      | some (.whole base), some (.whole exponent), some (.whole modulus) =>
        reducedPower base exponent modulus
      | some (.complex ..), some _, some _ | some _, some (.complex ..), some _
      | some _, some _, some (.complex ..) => raise "ValueError" "complex modulo"
      | some _, some _, some _ =>
        refuse "pow() 3rd argument not allowed unless all arguments are integers"
      | _, _, _ =>
        refuse ("unsupported operand type(s) for ** or pow(): '" ++ (← typeName base) ++ "', '"
          ++ (← typeName exponent) ++ "', '" ++ (← typeName modulus) ++ "'")
  | _ => giveUp

/-- A number rounded. -/
def roundedOf (given : Given) : Evaluated Value := do
  match ← given.required "round" 1 ["number", "ndigits"] with
  | [some value, places] =>
    match ← definedMember? value "__round__", ← core value, places with
    | some member, _, none => callDefined member value []
    | some member, _, some places => callDefined member value [places]
    | none, .real number, none | none, .real number, some .nothing => return .whole (← nearestWhole number)
    | none, .real number, some places => return .real (← roundedReal number (← indexOf places))
    | none, found, _ =>
      match found.whole?, places with
      | some number, none | some number, some .nothing => return .whole number
      | some number, some places => return .whole (roundedWhole number (← indexOf places))
      | none, _ => refuse ("type " ++ (← typeName value) ++ " doesn't define __round__ method")
  | _ => giveUp

/-- What values amount to, added one after the other. -/
def sumOf (given : Given) : Evaluated Value := do
  if given.arguments.isEmpty then
    refuse "sum() takes at least 1 positional argument (0 given)"
  match ← given.arranged "sum" 1 ["start"] with
  | [some source, start] =>
    let elements ← sourceOf source
    let start := start.getD (.whole 0)
    let refused (kind joiner : String) : Evaluated Value :=
      refuse ("sum() can't sum " ++ kind ++ " [use " ++ joiner ++ ".join(seq) instead]")
    match ← core start with
    | .text _ => refused "strings" "''"
    | .bytes _ => refused "bytes" "b''"
    | found =>
      if (← bytesOf? found).isSome then refused "bytearray" "b''"
      else (← drain elements).foldlM (operate .add) start
  | _ => giveUp

/-- The character of a number. -/
def characterOf (value : Value) : Evaluated Value := do
  let number ← indexOf value
  if number < 0 ∨ 0x110000 ≤ number then raise "ValueError" "chr() arg not in range(0x110000)"
  else if 0xD800 ≤ number ∧ number < 0xE000 then giveUp
  else return .text (String.ofList [Char.ofNat number.toNat])

/-- The number of a character. -/
def numberOfCharacter (value : Value) : Evaluated Value := do
  let refused (size : Nat) : Evaluated Value :=
    refuse ("ord() expected a character, but string of length " ++ toString size ++ " found")
  match ← core value with
  | .text text =>
    match text.toList with
    | [c] => return .whole c.toNat
    | several => refused several.length
  | found =>
    match ← bytesOf? found with
    | some [byte] => return .whole byte.toNat
    | some several => refused several.length
    | none => refuse ("ord() expected string of length 1, but " ++ (← typeName value) ++ " found")

/-- The first of some values that is below all others, or above them, by their keys. -/
def extremeOf (function : String) (given : Given) : Evaluated Value := do
  given.checkCount function 1 (given.arguments.length + 1)
  given.named.forM fun (name, _) => do
    if name ≠ "key" ∧ name ≠ "default" then
      refuse ("'" ++ name ++ "' is an invalid keyword argument for " ++ function ++ "()")
  let default := given.named.lookup "default"
  if given.arguments.length ≠ 1 ∧ default.isSome then
    refuse ("Cannot specify a default for " ++ function ++ "() with multiple positional arguments")
  let values ← match given.arguments with
    | [source] => elementsOf source
    | several => pure several
  let keyed ← values.mapM fun value => do
    match given.named.lookup "key" with
    | none | some .nothing => return (value, value)
    | some key => return (← perform (.call key [value] []), value)
  match keyed with
  | [] =>
    match default with
    | some value => return value
    | none => raise "ValueError" (function ++ "() arg is an empty sequence")
  | first :: rest =>
    let comparison := if function = "max" then Comparison.greater else .less
    let best ← rest.foldlM (fun (best : Keyed) (next : Keyed) => do
      if ← truthOf (← compare comparison next.1 best.1) then return next else return best) first
    return best.2

/-! Built-in functions on members and types of values. -/

/-- The member of a value, or the value that stands for it if there is none. -/
def getMember (given : Given) : Evaluated Value := do
  match given.arguments with
  | [value, name] => memberOf value (← attributeName name)
  | [value, name, default] => return (← memberIfAny? value (← attributeName name)).getD default
  | _ => giveUp

/-- Gives a value a member, or takes it away. -/
def putMember (given : Given) : Evaluated Value := do
  match given.arguments with
  | value :: name :: rest =>
    changeMember value (← attributeName name) rest.head? elementsOf
    return .nothing
  | _ => giveUp

/-- Whether a test holds for a type or for one of the types of a tuple, to at most the given depth. The types
are looked at one after the other, up to the first that it holds for. -/
def holdsForType (refusal : String) (test : Value → Evaluated Bool) : Nat → Value → Evaluated Bool
  | 0, _ => giveUp
  | depth + 1, types => do
    match types with
    | .tuple several => several.anyM (holdsForType refusal test depth)
    | .foreign .. => giveUp
    | type =>
      if ← isType type then test type
      else
        match ← definedMember? type "__instancecheck__" with
        | some _ => giveUp
        | none => refuse refusal

/-- Whether the type of a type answers questions about it in its own way, and what it then says. -/
def typeAnswer? (type value : Value) (name : String) : Evaluated (Option Bool) := do
  match ← memberOf? type name with
  | some (.member ..) | none => return none
  | some member => return some (← truthOf (← callDefined member type [value]))

/-- Whether a value is of a type or of one of several. -/
def isInstance (given : Given) : Evaluated Value := do
  match given.arguments with
  | [value, types] =>
    let ofValue ← typeOf value
    let refusal := "isinstance() arg 2 must be a type, a tuple of types, or a union"
    let test (type : Value) : Evaluated Bool := do
      if type.isIdentical ofValue then return true
      match ← typeAnswer? type value "__instancecheck__" with
      | some answer => return answer
      | none => if ofValue matches .foreign .. then giveUp else derivesFrom ofValue type
    return .truth (← holdsForType refusal test 50 types)
  | _ => giveUp

/-- Whether a type derives from a type or from one of several. -/
def isSubclass (given : Given) : Evaluated Value := do
  match given.arguments with
  | [type, types] =>
    if type matches .foreign .. then giveUp
    if !(← isType type) then refuse "issubclass() arg 1 must be a class"
    let refusal := "issubclass() arg 2 must be a class, a tuple of classes, or a union"
    let test (other : Value) : Evaluated Bool := do
      match ← typeAnswer? other type "__subclasscheck__" with
      | some answer => return answer
      | none => derivesFrom type other
    return .truth (← holdsForType refusal test 50 types)
  | _ => giveUp

/-- Names as a sorted list. -/
def sortedNames (names : List String) : Evaluated Value :=
  newList ((names.mergeSort fun a b => decide (a ≤ b)).map .text)

/-- The names of the members of a value. -/
def namesGiven (value : Value) : Evaluated Value := do
  match ← definedMember? value "__dir__" with
  | some member => newList (← sorted (← elementsOf (← callDefined member value [])) .nothing false)
  | none => sortedNames (← namesOf value)

/-- What a value knows by name. -/
def knowledgeGiven (value : Value) : Evaluated Value := do
  match ← memberIfAny? value "__dict__" with
  | some found => return found
  | none => refuse "vars() argument must have __dict__ attribute"

/-- The number that stands for a value among keys. -/
def hashGiven (value : Value) : Evaluated Value := do
  checkKey value
  match ← definedMember? value "__hash__" with
  | some member =>
    match (← callDefined member value []).whole? with
    | some number => return .whole number
    | none => refuse "__hash__ method should return an integer"
  | none =>
    match (← core value).quantity?.bind hashOfNumber? with
    | some number => return .whole number
    | none => return unknownValue

/-! Built-in functions that write values out, for messages and elsewhere. What is printed goes nowhere, and of
files it is only known that those with a relative name are not there. -/

/-- Makes sure that an argument is a text, if it is given. -/
def checkSeparator (given : Given) (name : String) : Evaluated Unit := do
  match given.named.lookup name with
  | none | some .nothing => return
  | some value =>
    match ← core value with
    | .text _ => return
    | _ => refuse (name ++ " must be None or a string, not " ++ (← typeName value))

/-- Prints values. -/
def printed (given : Given) : Evaluated Value := do
  given.named.forM fun (name, _) => do
    if !(["sep", "end", "file", "flush"].contains name) then
      refuse ("'" ++ name ++ "' is an invalid keyword argument for print()")
  checkSeparator given "sep"
  checkSeparator given "end"
  let write (text : Value) : Evaluated Unit := do
    match given.named.lookup "file" with
    | none | some .nothing => return
    | some file =>
      let _ ← perform (.call (← memberOf file "write") [text] [])
  let separator := match given.named.lookup "sep" with
    | none | some .nothing => Value.text " "
    | some value => value
  given.arguments.zipIdx.forM fun (value, place) => do
    if 0 < place then write separator
    write (.text (← textOf value))
  write (match given.named.lookup "end" with
    | none | some .nothing => .text "\n"
    | some value => value)
  return .nothing

/-- A value in a format. -/
def formatGiven (given : Given) : Evaluated Value := do
  let value := (given.at? 0).getD .nothing
  match given.at? 1 with
  | none => return .text (← format value "")
  | some specifier =>
    match ← core specifier with
    | .text text => return .text (← format value text)
    | _ => refuse ("format() argument 2 must be str, not " ++ (← shownType specifier))

/-- Whether the letters of a mode go together: what is to be done with the file once, and no other letter. -/
def checkMode (mode : String) : Evaluated Unit := do
  let letters := mode.toList
  let known := letters.all fun c => ['r', 'w', 'a', 'x', 'b', 't', '+'].contains c
  if !known || letters.eraseDups.length ≠ letters.length then
    raise "ValueError" ("invalid mode: " ++ Text.quoted mode)
  if letters.contains 'b' && letters.contains 't' then
    raise "ValueError" "can't have text and binary mode at once"
  if (letters.filter fun c => ['r', 'w', 'a', 'x'].contains c).length ≠ 1 then
    raise "ValueError" "must have exactly one of create/read/write/append mode"

/-- The text that an argument by name is, or none. -/
def checkTextOption (name : String) (value : Option Value) : Evaluated Unit := do
  match value with
  | none | some .nothing => return
  | some value =>
    match ← core value with
    | .text _ => return
    | _ => refuse ("open() argument '" ++ name ++ "' must be str or None, not " ++ (← shownType value))

/-- Opens a file, or says that there is none. -/
def opened (given : Given) : Evaluated Value := do
  let names := ["file", "mode", "buffering", "encoding", "errors", "newline", "closefd", "opener"]
  match ← given.required "open" 1 names with
  | file :: mode :: _ :: encoding :: errors :: newline :: _ =>
    let mode ← match mode with
      | none => pure "r"
      | some value =>
        match ← core value with
        | .text text => pure text
        | _ => refuse ("open() argument 'mode' must be str, not " ++ (← shownType value))
    checkTextOption "encoding" encoding
    checkTextOption "errors" errors
    checkTextOption "newline" newline
    let file := file.getD .nothing
    match ← core file with
    | .text path =>
      checkMode mode
      if path.toList.contains '\x00' then raise "ValueError" "embedded null byte"
      let reads := mode.toList.contains 'r'
      let isAbsolute := path.toList.head? = some '/'
      if path = "." ∨ path = "/" ∨ path = ".." then
        raiseWith "IsADirectoryError" [.whole 21, .text "Is a directory"]
          [("errno", .whole 21), ("strerror", .text "Is a directory"), ("filename", file)]
      else if isAbsolute ∨ (!reads ∧ !path.toList.contains '/') then return unknownValue
      else
        raiseWith "FileNotFoundError" [.whole 2, .text "No such file or directory"]
          [("errno", .whole 2), ("strerror", .text "No such file or directory"), ("filename", file)]
    | .bytes _ | .foreign .. => giveUp
    | .whole number =>
      checkMode mode
      if 2 < number then
        raiseWith "OSError" [.whole 9, .text "Bad file descriptor"]
          [("errno", .whole 9), ("strerror", .text "Bad file descriptor"), ("filename", .nothing)]
      else giveUp
    | _ =>
      refuse ("expected str, bytes or os.PathLike object, not " ++ (← typeName file))
  | _ => giveUp

/-! The built-in functions by name, with the numbers of arguments that they take. What depends on the block in
which a function is called is not known here. -/

/-- How many arguments built-in functions take that have no names for them. -/
def providedArity (name : String) : Arity :=
  match name with
  | "abs" | "aiter" | "all" | "any" | "ascii" | "bin" | "callable" | "chr" | "hash" | "hex" | "id" | "len"
  | "oct" | "ord" | "repr" => .plain 1
  | "globals" | "locals" => .plain 0
  | "delattr" | "divmod" | "hasattr" | "isinstance" | "issubclass" => .counted 2 2
  | "anext" | "format" | "iter" | "next" => .counted 1 2
  | "dir" | "input" | "vars" => .counted 0 1
  | "getattr" => .counted 2 3
  | "setattr" => .counted 3 3
  | "eval" => .counted 1 3
  | _ => .free

/-- Refuses arguments that a built-in function does not take. -/
def checkProvided (name : String) (given : Given) : Evaluated Unit := do
  match providedArity name with
  | .free => return
  | .plain count =>
    given.refuseNames (name ++ "()")
    if given.arguments.length ≠ count then
      let takes := if count = 0 then "no arguments" else "exactly one argument"
      refuse (name ++ "() takes " ++ takes ++ " (" ++ toString given.arguments.length ++ " given)")
  | arity =>
    given.refuseNames (name ++ "()")
    match arity.refusal? "" name given.arguments.length with
    | some refusal => refuse refusal
    | none => return

/-- Calls a built-in function. -/
def callProvided (name : String) (given : Given) : Evaluated Value := do
  checkProvided name given
  let argument := (given.at? 0).getD .nothing
  match name with
  | "abs" => absoluteOf argument
  | "all" => quantified true argument
  | "any" => quantified false argument
  | "ascii" => return .text (Template.escaped (← describe argument))
  | "bin" => markedDigits 2 "0b" argument
  | "callable" => return .truth (← isCallable argument)
  | "chr" => characterOf argument
  | "delattr" | "setattr" => putMember given
  | "dir" => if given.arguments.isEmpty then giveUp else namesGiven argument
  | "divmod" => dividedBoth argument ((given.at? 1).getD .nothing)
  | "format" => formatGiven given
  | "getattr" => getMember given
  | "hasattr" =>
    let name ← attributeName ((given.at? 1).getD .nothing)
    return .truth (← memberIfAny? argument name).isSome
  | "hash" => hashGiven argument
  | "hex" => markedDigits 16 "0x" argument
  | "id" => return unknownValue
  | "input" => raise "EOFError" "EOF when reading a line"
  | "isinstance" => isInstance given
  | "issubclass" => isSubclass given
  | "iter" => iterOf given
  | "len" => return .whole (← sizeOf argument)
  | "max" | "min" => extremeOf name given
  | "next" => nextGiven given
  | "oct" => markedDigits 8 "0o" argument
  | "open" => opened given
  | "ord" => numberOfCharacter argument
  | "pow" => raisedTo given
  | "print" => printed given
  | "repr" => return .text (← describe argument)
  | "round" => roundedOf given
  | "sorted" => sortedGiven given
  | "sum" => sumOf given
  | "vars" => if given.arguments.isEmpty then giveUp else knowledgeGiven argument
  | "__build_class__" =>
    if given.arguments.length < 2 then refuse "__build_class__: not enough arguments"
    else refuse "__build_class__: func must be a function"
  | _ => giveUp

end SelectionGen.Evaluation
