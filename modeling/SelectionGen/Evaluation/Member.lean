import SelectionGen.Evaluation.Member.Common
import SelectionGen.Evaluation.Member.Collection

/-! Calling members of built-in types. Numbers of arguments are checked first; what the member does is found by its
owner and its name. -/
namespace SelectionGen.Evaluation

open Target

/-- Functions with a bounded number of arguments that can be given by name as well. -/
def membersWithNames : List String :=
  ["encode", "decode", "split", "rsplit", "splitlines", "expandtabs", "hex", "translate", "to_bytes",
    "from_bytes", "sort", "update", "format"]

/-- Whether a member takes arguments by name. -/
def takesNames (owner name : String) (arity : Arity) : Bool :=
  if owner = "str" && name = "translate" then false
  else if membersWithNames.contains name then true
  else match arity with
    | .free => name = "__new__" || name = "__init__" || name = "__call__" || name = "__init_subclass__"
    | _ => name = "__init_subclass__"

/-- Refuses arguments that a member does not take; `shownOwner` is the type as messages show it. -/
def checkGiven (owner name shownOwner : String) (arity : Arity) (given : Given) : Evaluated Unit := do
  if !given.named.isEmpty && !takesNames owner name arity then
    if arity.isSlot then refuse ("wrapper " ++ name ++ "() takes no keyword arguments")
    else refuse (shownOwner ++ "." ++ name ++ "() takes no keyword arguments")
  if given.named.isEmpty then
    match arity.refusal? shownOwner name given.arguments.length with
    | some refusal => refuse refusal
    | none => pure ()

/-- Calls a member of a value by the type that owns it, once its arguments are checked. -/
def callOwned (owner name : String) (value : Value) (given : Given) : Evaluated Value := do
  let found ← core value
  match owner, found with
  | "str", .text text => callOfText name text given
  | "str", _ => if name = "maketrans" then callOfText name "" given else giveUp
  | "bytes", .bytes bytes => callOfBytes name bytes given fun bytes => return .bytes bytes
  | "bytes", _ => callOfBytes name [] given fun bytes => return .bytes bytes
  | "int", .type _ => callOfWhole name 0 given
  | "int", found =>
    match name with
    | "__format__" =>
      let specifier ← textOfArgument name "argument" ((given.at? 0).getD .nothing)
      if specifier = "" then return .text (← textOf value)
      else return .text (← formatCore found value specifier)
    | _ => callOfWhole name (found.whole?.getD 0) given
  | "float", .real number =>
    if name = "__format__" then
      let specifier ← textOfArgument name "argument" ((given.at? 0).getD .nothing)
      if specifier = "" then return .text (← textOf value)
      else return .text (← formatCore found value specifier)
    else callOfReal name number given
  | "float", .type _ =>
    match name, given.at? 0 with
    | "fromhex", some (.text text) => if text.toList.contains 'x' then giveUp else return .real (← readReal text "")
    | _, _ => callOfReal name 0.0 given
  | "complex", .complex first second =>
    if name = "__format__" then
      let specifier ← textOfArgument name "argument" ((given.at? 0).getD .nothing)
      if specifier = "" then return .text (← textOf value) else giveUp
    else callOfComplex name first second
  | "tuple", .tuple elements => callOfTuple name elements given
  | "range", .range first last step => callOfRange name first last step given
  | "slice", .slice first last step => callOfSlice name first last step given
  | "dict", found =>
    if name = "fromkeys" then mappingOfKeys given else callOfMapping name found given
  | "dict_keys", .view kind mapping | "dict_values", .view kind mapping
  | "dict_items", .view kind mapping => callOfView name kind mapping given
  | "type", _ => callOfType name value given
  | "ellipsis", _ => return .text "Ellipsis"
  | "NotImplementedType", _ => return .text "NotImplemented"
  | _, .cell id =>
    match ← cell? id with
    | some (.list elements) => callOfList name id elements given
    | some (.set isFixed elements) => callOfSet name id isFixed elements given
    | some (.byteArray bytes) => callOfByteArray name id bytes given
    | some (.property getter setter deleter documentation) =>
      callOfProperty name getter setter deleter documentation given
    | some (.generator generator) => callOfGenerator name id generator given
    | some (.source source) => callOfSource name source
    | some (.thing thing) => callOfFailure name id thing given
    | _ => giveUp
  | "bytearray", _ => callOfBytes name [] given fun bytes => allocate (.byteArray bytes)
  | _, _ =>
    match name, found with
    | "__reduce__", .builtin shown => return .text shown
    | _, _ => giveUp

/-- Members of other types that do what the member of all values does. -/
def doesAsAll (owner name : String) : Bool :=
  owner = "object" || (name = "__dir__" && owner = "module")

/-- Calls a member of a built-in type on a value. -/
def callBuiltinMember (owner name shownOwner : String) (value : Value) (given : Given) :
    Evaluated Value := do
  let arity := (BuiltinType.ownMember? owner name).getD .free
  checkGiven owner name shownOwner arity given
  match name with
  | "__new__" => newByName owner given
  | "__init__" => initByName owner value given
  | "__call__" => perform (.call value given.arguments given.named)
  | "__class_getitem__" => return .foreign "types.GenericAlias" owner
  | "__get__" =>
    let place := (given.at? 0).getD .nothing
    match place with
    | .nothing => return value
    | place => bindMember value place (← typeOf place) ""
  | "__set__" | "__delete__" =>
    match ← cellOf? value with
    | some (.property _ setter deleter _) =>
      perform (.call (if name = "__set__" then setter else deleter) given.arguments [])
    | _ => giveUp
  | _ =>
    if doesAsAll owner name then
      match ← (if arity.isSlot then callSlot? owner name value given else return none) with
      | some found => return found
      | none => callCommon name value given
    else if arity.isSlot then
      match ← callSlot? owner name value given with
      | some found => return found
      | none => giveUp
    else callOwned owner name value given

/-- Whether a member of a type can be called on a value. -/
def fitsMember (owner name : String) (value : Value) : Evaluated Bool := do
  if typeLevelMembers.contains (owner, name) || looseMembers.contains (owner, name) || name = "__new__" then
    return true
  else isThingOf value owner

/-- Calls a member of a built-in type that is not bound to a value: the first argument is the value. -/
def callLoose (owner name : String) (given : Given) : Evaluated Value := do
  let isOperator := memberTypeName owner name = "wrapper_descriptor"
  match given.arguments with
  | [] =>
    if isOperator then refuse ("descriptor '" ++ name ++ "' of '" ++ owner ++ "' object needs an argument")
    else refuse ("unbound method " ++ owner ++ "." ++ name ++ "() needs an argument")
  | value :: rest =>
    if ← isThingOf value owner then
      callBuiltinMember owner name owner value { given with arguments := rest }
    else if isOperator then
      refuse ("descriptor '" ++ name ++ "' requires a '" ++ owner ++ "' object but received a '"
        ++ (← typeName value) ++ "'")
    else
      refuse ("descriptor '" ++ name ++ "' for '" ++ owner ++ "' objects doesn't apply to a '"
        ++ (← typeName value) ++ "' object")

end SelectionGen.Evaluation
