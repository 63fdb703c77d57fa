import SelectionGen.Evaluation.Failure
import SelectionGen.Evaluation.Member.Bytes

/-! Making values of built-in types from other values, and things of types that code defines. -/
namespace SelectionGen.Evaluation

open Target

namespace Creation

/-- Texts and bytes for numbers: what is read, and how it is shown if it cannot be. -/
def spelled? (value : Value) : Evaluated (Option (String × String)) := do
  match ← core value with
  | .text text => return some (text, Text.quoted text)
  | found =>
    match ← bytesOf? found with
    | some bytes =>
      return some (String.ofList (BytesMember.characters bytes), shownBytes bytes)
    | none => return none

/-- A whole number from a value. -/
def wholeFrom (value : Value) : Evaluated Value := do
  match ← wholeBehind? value with
  | some number => return .whole number
  | none =>
    match ← spelled? value with
    | some (text, shown) => return .whole (← readWhole 10 text shown)
    | none =>
      refuse ("int() argument must be a string, a bytes-like object or a real number, not '"
        ++ (← typeName value) ++ "'")

def newWhole (given : Given) : Evaluated Value := do
  match ← given.arranged "int" 1 ["base"] with
  | [none, none] => return .whole 0
  | [none, some _] => refuse "int() missing string argument"
  | [some value, none] => wholeFrom value
  | [some value, some base] =>
    let base ← indexOf base
    match ← spelled? value with
    | some (text, shown) => return .whole (← readWhole base text shown)
    | none => refuse "int() can't convert non-string with explicit base"
  | _ => giveUp

def newTruth (given : Given) : Evaluated Value := do
  given.refuseNames "bool()"
  given.checkCount "bool" 0 1
  match given.at? 0 with
  | none => return .truth false
  | some value => return .truth (← truthOf value)

def newReal (given : Given) : Evaluated Value := do
  given.refuseNames "float()"
  given.checkCount "float" 0 1
  match given.at? 0 with
  | none => return .real 0.0
  | some value =>
    match ← spelled? value with
    | some (text, shown) => return .real (← readReal text shown)
    | none =>
      match ← realBehind? value with
      | some number => return .real number
      | none =>
        refuse ("float() argument must be a string or a real number, not '" ++ (← typeName value)
          ++ "'")

def newComplex (given : Given) : Evaluated Value := do
  match ← given.arranged "complex" 0 ["real", "imag"] with
  | [none, none] => return .complex 0.0 0.0
  | [first, second] =>
    let first := first.getD (.whole 0)
    match ← core first, second with
    | .text _, some _ => refuse "complex() can't take second arg if first is a string"
    | .text text, none =>
      match complexOfText? text with
      | some (a, b) => return .complex a b
      | none => raise "ValueError" "complex() arg is a malformed string"
    | found, second =>
      let parts (place : String) (value : Value) : Evaluated (Float × Float) := do
        match ← core value with
        | .complex a b => return (a, b)
        | _ =>
          match ← realBehind? value with
          | some number => return (number, 0.0)
          | none =>
            refuse ("complex() " ++ place ++ " argument must be a " ++
              (if place = "first" then "string or a number" else "number") ++ ", not '"
              ++ (← typeName value) ++ "'")
      let (a, b) ← parts "first" (if found.quantity?.isSome then found else first)
      match second with
      | none => return .complex a b
      | some second =>
        if (← core second) matches .text _ then refuse "complex() second arg can't be a string"
        let (c, d) ← parts "second" second
        return .complex (a - d) (b + c)
  | _ => giveUp

def newText (given : Given) : Evaluated Value := do
  match ← given.arranged "str" 0 ["object", "encoding", "errors"] with
  | [none, _, _] => return .text ""
  | [some value, none, none] => return .text (← textOf value)
  | [some value, encoding, errors] =>
    let named := (encoding.toList.map fun value => ("encoding", value))
      ++ errors.toList.map fun value => ("errors", value)
    match ← core value with
    | .text _ =>
      let _ ← TextMember.withEncoding "str" { named } fun _ => return .nothing
      refuse "decoding str is not supported"
    | found =>
      match ← bytesOf? found with
      | some bytes => TextMember.withEncoding "str" { named } (TextMember.decoded bytes)
      | none =>
        let _ ← TextMember.withEncoding "str" { named } fun _ => return .nothing
        refuse ("decoding to str: need a bytes-like object, " ++ (← typeName value) ++ " found")
  | _ => giveUp

/-- Bytes from a value: those of a text in an encoding, so many zeros, or numbers one by one. -/
def bytesFor (kind : String) (given : Given) : Evaluated (List UInt8) := do
  match ← given.arranged kind 0 ["source", "encoding", "errors"] with
  | [none, encoding, errors] =>
    if encoding.isSome then refuse "encoding without a string argument"
    else if errors.isSome then refuse "errors without a string argument"
    else return []
  | [some source, encoding, errors] =>
    let named := (encoding.toList.map fun value => ("encoding", value))
      ++ errors.toList.map fun value => ("errors", value)
    match ← core source with
    | .text text =>
      if encoding.isNone then
        if errors.isNone then refuse "string argument without an encoding"
      let found ← TextMember.withEncoding kind { named } (TextMember.encoded text)
      return (← bytesOf? found).getD []
    | found =>
      if !named.isEmpty then
        let _ ← TextMember.withEncoding kind { named } fun _ => return .nothing
        if encoding.isSome then refuse "encoding without a string argument"
        else refuse "errors without a string argument"
      match ← definedMember? source "__bytes__" with
      | some member => return (← bytesOf? (← callDefined member source [])).getD []
      | none =>
        match ← bytesOf? found with
        | some bytes => return bytes
        | none =>
          if ← isPlace source then
            let count ← indexOf source
            if count < 0 then raise "ValueError" "negative count"
            if sizeLimit < count.toNat then giveUp
            return List.replicate count.toNat 0
          else
            if (← memberIfAny? source "__iter__").isNone then
              refuse ("cannot convert '" ++ (← typeName source) ++ "' object to " ++ kind)
            let inRange (value : Value) : Evaluated UInt8 := do
              let number ← indexOf value
              if 0 ≤ number ∧ number < 256 then return UInt8.ofNat number.toNat
              else
                raise "ValueError"
                  ((if kind = "bytes" then "bytes" else "byte") ++ " must be in range(0, 256)")
            (← elementsOf source).mapM inRange
  | _ => giveUp

/-- The elements that a collection is made from. -/
def elementsFor (name : String) (given : Given) : Evaluated (List Value) := do
  given.refuseNames (name ++ "()")
  given.checkCount name 0 1
  match given.at? 0 with
  | none => return []
  | some source => elementsOf source

/-- The entries that a mapping is made from. -/
def entriesFor (given : Given) : Evaluated (List (Value × Value)) := do
  given.checkCount "dict" 0 1
  let found ← match given.at? 0 with
    | none => pure []
    | some source => entriesOf source
  return merged [] (found ++ given.named.map fun (name, value) => (.text name, value))

def newRange (given : Given) : Evaluated Value := do
  given.refuseNames "range()"
  given.checkCount "range" 1 3
  match ← given.arguments.mapM indexOf with
  | [last] => return .range 0 last 1
  | [first, last] => return .range first last 1
  | [first, last, step] =>
    if step = 0 then raise "ValueError" "range() arg 3 must not be zero"
    return .range first last step
  | _ => giveUp

def newSlice (given : Given) : Evaluated Value := do
  given.refuseNames "slice()"
  given.checkCount "slice" 1 3
  match given.arguments with
  | [last] => return .slice .nothing last .nothing
  | [first, last] => return .slice first last .nothing
  | [first, last, step] => return .slice first last step
  | _ => giveUp

/-- The type of a value, or a new type from its name, its bases and its members. -/
def newType (kind : Value) (given : Given) : Evaluated Value := do
  match given.arguments with
  | [value] =>
    if kind.isIdentical (.type "type") && given.named.isEmpty then typeOf value
    else refuse "type() takes 1 or 3 arguments"
  | [name, bases, members] =>
    let wrong (place : Nat) (wanted : String) (value : Value) : Evaluated Value := do
      refuse ("type.__new__() argument " ++ toString place ++ " must be " ++ wanted ++ ", not "
        ++ (← shownType value))
    match ← core name, ← core bases with
    | .text shown, .tuple found =>
      if !(← isMapping (← core members)) then wrong 3 "dict" members
      else
        let kind ← kindFor kind found
        defineType kind shown found (← entries (← core members)) given.named
    | .text _, _ => wrong 2 "tuple" bases
    | _, _ => wrong 1 "str" name
  | _ => refuse "type() takes 1 or 3 arguments"

def newSourceOf (name : String) (given : Given) : Evaluated Value := do
  match name with
  | "enumerate" =>
    let arranged ← given.arranged name 0 ["iterable", "start"]
    match arranged with
    | [none, _] => refuse "enumerate() missing required argument 'iterable'"
    | [some source, start] =>
      let start ← numberOr 0 start
      newSource (.numbered (← sourceOf source) start)
    | _ => giveUp
  | "zip" =>
    let isStrict ← match given.named with
      | [] => pure false
      | [("strict", value)] => truthOf value
      | (other, _) :: _ => refuse ("'" ++ other ++ "' is an invalid keyword argument for zip()")
    newSource (.zipped isStrict (← given.arguments.mapM sourceOf))
  | "map" =>
    given.refuseNames "map()"
    match given.arguments with
    | function :: first :: rest =>
      newSource (.mapped function (← (first :: rest).mapM sourceOf))
    | _ => refuse "map() must have at least two arguments."
  | "filter" =>
    given.refuseNames "filter()"
    given.checkCount name 2 2
    match given.arguments with
    | [function, source] => newSource (.filtered function (← sourceOf source))
    | _ => giveUp
  | _ =>
    given.refuseNames "reversed()"
    given.checkCount name 1 1
    let value := (given.at? 0).getD .nothing
    match ← memberOf? value "__reversed__" with
    | some .nothing => refuse ("'" ++ (← typeName value) ++ "' object is not reversible")
    | some member => perform (.call (← bindMember member value (← typeOf value) "") [] [])
    | none =>
      let found ← core value
      if ← isSequence found then
        newSource (.backwards "reversed" found ((← sizeOfCore? found).getD 0))
      else refuse ("'" ++ (← typeName value) ++ "' object is not reversible")

def newProperty (given : Given) : Evaluated Value := do
  match ← given.arranged "property" 0 ["fget", "fset", "fdel", "doc"] with
  | [getter, setter, deleter, documentation] =>
    let shown ← match documentation, getter with
      | some value, _ => pure value
      | none, some getter => do
        match ← memberIfAny? getter "__doc__" with
        | some value => pure value
        | none => pure .nothing
      | none, none => pure .nothing
    allocate (.property (getter.getD .nothing) (setter.getD .nothing) (deleter.getD .nothing) shown)
  | _ => giveUp

/-- Looking for members behind a type. -/
def newParent (given : Given) : Evaluated Value := do
  given.refuseNames "super()"
  match given.arguments with
  | [] => raise "RuntimeError" "super(): no arguments"
  | type :: rest =>
    if !(← isType type) then
      refuse ("super() argument 1 must be a type, not " ++ (← shownType type))
    match rest with
    | [] => giveUp
    | [owner] =>
      let fits ← do
        if ← isType owner then
          if ← derivesFrom owner type then pure true else derivesFrom (← typeOf owner) type
        else derivesFrom (← typeOf owner) type
      if fits then allocate (.parent type owner)
      else refuse "super(type, obj): obj must be an instance or subtype of type"
    | _ => refuse ("super() takes at most 2 arguments (" ++ toString given.arguments.length ++ " given)")

end Creation

/-- Types that values cannot be made of by calling them. -/
def closedTypes : List String :=
  ["builtin_function_or_method", "generator", "coroutine", "async_generator", "dict_keys", "dict_values",
    "dict_items", "method-wrapper", "wrapper_descriptor", "method_descriptor", "classmethod_descriptor",
    "getset_descriptor", "member_descriptor", "list_iterator", "tuple_iterator", "str_iterator",
    "str_ascii_iterator", "bytes_iterator", "bytearray_iterator", "range_iterator", "set_iterator",
    "dict_keyiterator", "dict_valueiterator", "dict_itemiterator", "list_reverseiterator",
    "dict_reversekeyiterator", "dict_reversevalueiterator", "dict_reverseitemiterator", "callable_iterator",
    "iterator", "frame"]

open Creation in
/-- A value of a built-in type. -/
def construct (name : String) (given : Given) : Evaluated Value := do
  let single (value : Value) : Evaluated Value := do
    if given.arguments.isEmpty && given.named.isEmpty then return value
    else refuse (name ++ " takes no arguments")
  match name with
  | "object" =>
    if given.arguments.isEmpty && given.named.isEmpty then allocateThing (.type "object") .nothing []
    else refuse "object() takes no arguments"
  | "int" => newWhole given
  | "bool" => newTruth given
  | "float" => newReal given
  | "complex" => newComplex given
  | "str" => newText given
  | "bytes" => return .bytes (← bytesFor name given)
  | "bytearray" => allocate (.byteArray (← bytesFor name given))
  | "list" => newList (← elementsFor name given)
  | "tuple" => return .tuple (← elementsFor name given)
  | "set" => newSet false (← elementsFor name given)
  | "frozenset" => newSet true (← elementsFor name given)
  | "dict" => newMapping (← entriesFor given)
  | "range" => newRange given
  | "slice" => newSlice given
  | "type" => newType (.type "type") given
  | "enumerate" | "zip" | "map" | "filter" | "reversed" => newSourceOf name given
  | "property" => newProperty given
  | "staticmethod" | "classmethod" =>
    given.refuseNames (name ++ "()")
    given.checkCount name 1 1
    allocate (.wrapper name ((given.at? 0).getD .nothing))
  | "super" => newParent given
  | "NoneType" => single .nothing
  | "ellipsis" => single .ellipsis
  | "NotImplementedType" => single .undecided
  | "module" =>
    match ← given.arranged name 0 ["name", "doc"] with
    | [none, _] => refuse "module() missing required argument 'name' (pos 1)"
    | [some shown, documentation] =>
      let shown ← textOfArgument name "argument 'name'" shown
      let members ← allocateId (.mapping [(.text "__name__", .text shown),
        (.text "__doc__", documentation.getD .nothing), (.text "__package__", .nothing),
        (.text "__loader__", .nothing), (.text "__spec__", .nothing)])
      allocate (.module shown members)
    | _ => giveUp
  | "function" =>
    match given.at? 0 with
    | none => refuse "function() missing required argument 'code' (pos 1)"
    | some other => refuse ("function() argument 'code' must be code, not " ++ (← shownType other))
  | "method" =>
    given.checkCount name 2 2
    match given.arguments with
    | [function, owner] => return .bound function owner
    | _ => giveUp
  | _ =>
    if BuiltinType.isKindOf name "BaseException" then newFailure (.type name) name given
    else if closedTypes.contains name then refuse ("cannot create '" ++ name ++ "' instances")
    else giveUp

/-- Built-in types whose values are filled after they are made. -/
def isFilledLater (name : String) : Bool := ["list", "dict", "set", "bytearray"].contains name

/-- An empty value of a type that is filled later. -/
def emptyOf (name : String) : Evaluated Value := construct name {}

/-- Fills a value that was made empty, and forgets what was in it before, unless it is a mapping. -/
def fillWith (name : String) (value : Value) (given : Given) : Evaluated Value := do
  match ← core value, name with
  | .cell id, "list" => setCell id (.list (← Creation.elementsFor name given))
  | .cell id, "set" =>
    let elements ← Creation.elementsFor name given
    elements.forM checkKey
    setCell id (.set false (Value.distinct elements))
  | .cell id, "bytearray" => setCell id (.byteArray (← Creation.bytesFor name given))
  | found, "dict" => setEntries found (merged (← entries found) (← Creation.entriesFor given))
  | _, _ => giveUp
  return .nothing

/-- A thing of a type that code defines, as the built-in type that it derives from makes it. -/
def makeThing (type : Value) (given : Given) : Evaluated Value := do
  let base ← dataTypeOf type
  if base = "object" then
    let isEmpty := given.arguments.isEmpty && given.named.isEmpty
    if !isEmpty then
      match ← memberOfType? type "__init__" with
      | some (.member "object" _) => refuse ((← nameOfType type) ++ "() takes no arguments")
      | _ => pure ()
    allocateThing type .nothing []
  else if BuiltinType.isKindOf base "BaseException" then
    match ← memberOfType? type "__init__" with
    | some (.member ..) => newFailure type base given
    | _ => newFailure type base { arguments := given.arguments }
  else if base = "type" then
    Creation.newType type given
  else if isFilledLater base then
    allocateThing type (← emptyOf base) []
  else allocateThing type (← construct base given) []

/-- Makes a thing of a type that code defines: the type makes it, and then it is made ready. -/
def instantiate (type : Value) (given : Given) : Evaluated Value := do
  let made ← match ← memberOfType? type "__new__" with
    | some (.member _ _) | none => makeThing type given
    | some found => do perform (.call (← bindToType found type) (type :: given.arguments) given.named)
  if !(← derivesFrom (← typeOf made) type) then return made
  match ← memberOfType? (← typeOf made) "__init__" with
  | some (.member owner _) =>
    if isFilledLater owner then
      let _ ← fillWith owner made given
  | some found =>
    match ← perform (.call (← bindMember found made (← typeOf made) "__init__") given.arguments given.named) with
    | .nothing => pure ()
    | other => refuse ("__init__() should return None, not '" ++ (← typeName other) ++ "'")
  | none => pure ()
  return made

end SelectionGen.Evaluation
