import SelectionGen.Evaluation.Arguments
import SelectionGen.Text.Identifier

/-! Defining types. A type comes in front of what it derives from, and keeps the order of its bases and of theirs;
what cannot be put in order is no type. Some members mean something while a type is defined. -/
namespace SelectionGen.Evaluation

open Target

/-- Built-in types that nothing can derive from. -/
def finalTypes : List String :=
  ["bool", "NoneType", "ellipsis", "NotImplementedType", "function", "method", "builtin_function_or_method",
    "generator", "coroutine", "async_generator", "range", "slice", "dict_keys", "dict_values", "dict_items",
    "method-wrapper", "wrapper_descriptor", "method_descriptor", "classmethod_descriptor", "getset_descriptor",
    "member_descriptor", "cell", "list_iterator", "tuple_iterator", "str_iterator", "range_iterator"]

/-- The first head of some lists that is in no tail of them. -/
def goodHead? (lists : List (List Value)) : Option Value :=
  (lists.filterMap List.head?).find? fun head =>
    !lists.any fun list => (list.drop 1).any fun other => other.isIdentical head

/-- Merges orders of types into one that keeps them all, in at most so many steps. -/
def mergeOrders? : Nat → List (List Value) → Option (List Value)
  | 0, _ => none
  | steps + 1, lists =>
    let left := lists.filter fun list => !list.isEmpty
    if left.isEmpty then some []
    else
      match goodHead? left with
      | none => none
      | some head =>
        let rest := left.map fun list =>
          if (list.head?.map head.isIdentical).getD false then list.drop 1 else list
        (mergeOrders? steps rest).map (head :: ·)

/-- The first type that is twice among some. -/
def twice? : List Value → Option Value
  | [] => none
  | type :: rest => if rest.any type.isIdentical then some type else twice? rest

/-- The order of a new type behind the type itself. -/
def orderBehind (bases : List Value) : Evaluated (List Value) := do
  match twice? bases with
  | some type => refuse ("duplicate base class " ++ (← nameOfType type))
  | none => pure ()
  let orders ← bases.mapM orderOfType
  let lists := orders ++ [bases]
  match mergeOrders? ((lists.map List.length).foldl (· + ·) 1) lists with
  | some order => return order
  | none =>
    refuse ("Cannot create a consistent method resolution\norder (MRO) for bases "
      ++ listed (← bases.mapM nameOfType))

/-- Built-in types whose things have nothing but what is known by name. -/
def isPlainType (name : String) : Bool :=
  name = "object" || (BuiltinType.isKindOf name "BaseException"
    && !BuiltinType.isKindOf name "OSError" && !BuiltinType.isKindOf name "SyntaxError"
    && !BuiltinType.isKindOf name "UnicodeError" && !BuiltinType.isKindOf name "ImportError")

/-- The built-in types among the bases of a type that have to agree with each other. -/
def dataTypes (bases : List Value) : Evaluated (List String) := do
  let found ← bases.mapM dataTypeOf
  return found.filter fun name => name ≠ "object"

/-- Makes sure that a type can derive from some types together. -/
def checkBases (bases : List Value) : Evaluated Unit := do
  bases.forM fun base => do
    match base with
    | .type name =>
      if finalTypes.contains name then refuse ("type '" ++ name ++ "' is not an acceptable base type")
    | .projectionType _ | .foreign .. => giveUp
    | _ => pure ()
  let data ← dataTypes bases
  let fits := data.all fun a => data.all fun b => BuiltinType.isKindOf a b || BuiltinType.isKindOf b a
    || isPlainType a && isPlainType b
  if !fits then refuse "multiple bases have instance lay-out conflict"

/-- The names that things of a type are limited to. -/
def checkSlots (members : List (Value × Value)) : Evaluated Unit := do
  match Value.lookUp (.text "__slots__") members with
  | none => return
  | some (.text name) => check name
  | some slots =>
    (← elementsOf slots).forM fun slot => do
      match slot with
      | .text name => check name
      | other => refuse ("__slots__ items must be strings, not '" ++ (← typeName other) ++ "'")
where
  check (name : String) : Evaluated Unit := do
    let isName := match name.toList with
      | [] => false
      | c :: rest => Text.isIdentifierStart c && rest.all Text.isIdentifierContinue
    if !isName then refuse "__slots__ must be identifiers"
    if (Value.lookUp (.text name) members).isSome then
      raise "ValueError" ("'" ++ name ++ "' in __slots__ conflicts with class variable")

/-- A function among the members of a type, where such a function belongs to the type and not to its things. -/
def asMember (name : String) (value : Value) : Evaluated Value := do
  match ← cellOf? value with
  | some (.function _) =>
    if name = "__new__" then allocate (.wrapper "staticmethod" value)
    else if name = "__init_subclass__" ∨ name = "__class_getitem__" then
      allocate (.wrapper "classmethod" value)
    else return value
  | _ => return value

/-- Tells members which names they have in a type. -/
def tellNames (type : Value) (typeName : String) (members : List (Value × Value)) : Evaluated Unit :=
  members.forM fun (key, value) => do
    match ← definedMember? value "__set_name__" with
    | none => return
    | some member =>
      let attempt := callDefined member value [type, key]
      tryCatch (do let _ ← attempt) fun interruption => do
        match interruption with
        | .raised _ =>
          raise "RuntimeError"
            ("Error calling __set_name__ on '" ++ (← Evaluation.typeName value) ++ "' instance "
              ++ (← describe key) ++ " in '" ++ typeName ++ "'")
        | other => throw other

/-- Tells what a type derives from that it is there. -/
def tellBases (type : Value) (typeName : String) (named : List (String × Value)) : Evaluated Unit := do
  match ← firstMember? "__init_subclass__" ((← orderOfType type).drop 1) with
  | some (.member ..) | none =>
    if !named.isEmpty then
      refuse (typeName ++ ".__init_subclass__() takes no keyword arguments")
  | some found => let _ ← perform (.call (← bindToType found type) [] named)

/-- Defines a type of a kind with members. -/
def defineType (kind : Value) (name : String) (bases : List Value) (members : List (Value × Value))
    (named : List (String × Value)) : Evaluated Value := do
  let bases := if bases.isEmpty then [Value.type "object"] else bases
  checkBases bases
  checkSlots members
  let path ← match Value.lookUp (.text "__qualname__") members with
    | none => pure name
    | some (.text path) => pure path
    | some other => refuse ("type __qualname__ must be a str, not " ++ (← typeName other))
  match Value.lookUp (.text "__classcell__") members with
  | none => pure ()
  | some other =>
    refuse ("__classcell__ must be a nonlocal cell, not " ++ (← describe (← typeOf other)))
  let order ← orderBehind bases
  let kept := Value.dropFrom (.text "__qualname__") members
  let kept ← kept.mapM fun (key, value) => do
    return (key, ← asMember (key.text?.getD "") value)
  let hasOwn (name : String) : Bool := (Value.lookUp (.text name) kept).isSome
  let kept := if hasOwn "__eq__" && !hasOwn "__hash__" then
      kept ++ [(.text "__hash__", .nothing)] else kept
  let kept := if hasOwn "__doc__" then kept else kept ++ [(.text "__doc__", .nothing)]
  let mapping ← allocateId (.mapping kept)
  let id := (← get).cells.size
  let type ← allocate (.type ⟨name, path, bases, .cell id :: order, mapping, kind⟩)
  tellNames type name kept
  tellBases type name named
  return type

/-- The kind that a type with some bases has: the most special one of theirs and the one that is asked for. -/
def kindFor (wanted : Value) (bases : List Value) : Evaluated Value := do
  let kinds ← bases.mapM typeOf
  kinds.foldlM (fun found kind => do
    if ← derivesFrom found kind then return found
    else if ← derivesFrom kind found then return kind
    else
      refuse ("metaclass conflict: the metaclass of a derived class must be a (non-strict) subclass "
        ++ "of the metaclasses of all its bases")) wanted

end SelectionGen.Evaluation
