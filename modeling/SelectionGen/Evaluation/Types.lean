import SelectionGen.Evaluation.Builtin
import SelectionGen.Evaluation.Key

/-! Types of values: what a value is a thing of, what a type derives from, and which of its types a member
comes from. -/
namespace SelectionGen.Evaluation

open Target

/-- The type of what gives values one by one. -/
def Source.typeName : Source → String
  | elements typeName .. => typeName
  | backwards typeName .. => typeName
  | remaining typeName _ => typeName
  | entries .keys .. => "dict_keyiterator"
  | entries .values .. => "dict_valueiterator"
  | entries .entries .. => "dict_itemiterator"
  | mapped .. => "map"
  | filtered .. => "filter"
  | zipped .. => "zip"
  | numbered .. => "enumerate"
  | called .. => "callable_iterator"
  | indexed .. => "iterator"

/-- Whether a built-in member is used by an operator rather than called by name. -/
def Arity.isSlot : Arity → Bool
  | slot _ | spaced .. => true
  | _ => false

/-- The type of a built-in member. -/
def memberTypeName (typeName name : String) : String :=
  match BuiltinType.ownMember? typeName name with
  | some .data => "getset_descriptor"
  | some arity =>
    if name = "__new__" then "builtin_function_or_method"
    else if arity.isSlot || name = "__init__" || name = "__call__" then "wrapper_descriptor"
    else "method_descriptor"
  | none => "method_descriptor"

def ViewKind.typeName : ViewKind → String
  | .keys => "dict_keys"
  | .values => "dict_values"
  | .entries => "dict_items"

/-- The type of the value in a cell. -/
def Cell.kind : Cell → Value
  | list _ => .type "list"
  | mapping _ => .type "dict"
  | set isFixed _ => .type (if isFixed then "frozenset" else "set")
  | byteArray _ => .type "bytearray"
  | frame _ => .type "frame"
  | function _ => .type "function"
  | type definition => definition.kind
  | thing found => found.type
  | module .. => .type "module"
  | source found => .type found.typeName
  | generator found => .type found.typeName
  | property .. => .type "property"
  | wrapper typeName _ => .type typeName
  | parent .. => .type "super"

/-- What a value is a thing of. -/
def typeOf (value : Value) : Evaluated Value := do
  match value with
  | .nothing => return .type "NoneType"
  | .undecided => return .type "NotImplementedType"
  | .ellipsis => return .type "ellipsis"
  | .truth _ => return .type "bool"
  | .whole _ => return .type "int"
  | .real _ => return .type "float"
  | .complex .. => return .type "complex"
  | .text _ => return .type "str"
  | .bytes _ => return .type "bytes"
  | .tuple _ => return .type "tuple"
  | .range .. => return .type "range"
  | .slice .. => return .type "slice"
  | .type _ | .projectionType _ => return .type "type"
  | .builtin _ => return .type "builtin_function_or_method"
  | .member typeName name => return .type (memberTypeName typeName name)
  | .bound function _ =>
    match function with
    | .member typeName name =>
      let isOperator := memberTypeName typeName name = "wrapper_descriptor"
      return .type (if isOperator then "method-wrapper" else "builtin_function_or_method")
    | _ => return .type "method"
  | .view kind _ => return .type (ViewKind.typeName kind)
  | .cell id => return ((← cell? id).map Cell.kind).getD (.type "object")
  | .object id =>
    return (((← get).store.object? id).map fun object =>
      .projectionType object.classKey).getD (.type "object")
  | .state _ | .fields _ => return .type "dict"
  | .block _ => return .type "function"
  | .foreign typeName _ => return .foreign "type" typeName

/-- The definition of a type that code defines. -/
def definitionOf? (type : Value) : Evaluated (Option TypeDefinition) := do
  match ← cellOf? type with
  | some (.type definition) => return some definition
  | _ => return none

/-- The name of a type. -/
def nameOfType (type : Value) : Evaluated String := do
  match type with
  | .type name => return name
  | .projectionType key => return key.name
  | .foreign _ name => if name = "" then giveUp else return name
  | other => return ((← definitionOf? other).map TypeDefinition.name).getD ""

/-- The name of the type of a value. -/
def typeName (value : Value) : Evaluated String := do nameOfType (← typeOf value)

/-- The types that a member of a type is looked up in, one behind the other. -/
def orderOfType (type : Value) : Evaluated (List Value) := do
  match type with
  | .type name => return (BuiltinType.order name).map .type
  | .projectionType key => return [.projectionType key, .projectionType ⟨"", baseProjection.name⟩, .type "object"]
  | other => return ((← definitionOf? other).map TypeDefinition.order).getD [other, .type "object"]

/-- Whether a type derives from another one. -/
def derivesFrom (type ancestor : Value) : Evaluated Bool := do
  return (← orderOfType type).any fun found => found.isIdentical ancestor

/-- Whether a value is a type. -/
def isType (value : Value) : Evaluated Bool := do
  match value with
  | .type _ | .projectionType _ => return true
  | .foreign typeName _ => return typeName = "type"
  | other => return (← definitionOf? other).isSome

/-- Whether a value is a thing of a built-in type. -/
def isThingOf (value : Value) (name : String) : Evaluated Bool := do
  derivesFrom (← typeOf value) (.type name)

/-- The first built-in type that a type derives from and that has data of its own. -/
def dataTypeOf (type : Value) : Evaluated String := do
  return ((← orderOfType type).findSome? fun
    | .type name => some name
    | _ => none).getD "object"

/-- The value of a built-in type that a value is at the same time. -/
def core (value : Value) : Evaluated Value := do
  match ← cellOf? value with
  | some (.thing found) =>
    match found.payload with
    | .nothing => return value
    | payload => return if ← derivesFrom found.type (.type "BaseException") then value else payload
  | _ => return value

/-- The own members of a type that code defines. -/
def ownMembers (type : Value) : Evaluated (List (Value × Value)) := do
  match ← definitionOf? type with
  | some definition => entries (.cell definition.members)
  | none => return []

/-- The own member of a type, whatever kind of type it is. -/
def ownMember? (type : Value) (name : String) : Evaluated (Option Value) := do
  match type with
  | .type typeName =>
    return (BuiltinType.ownMember? typeName name).map fun _ => .member typeName name
  | other => return Value.lookUp (.text name) (← ownMembers other)

/-- The first member of a name in some types. -/
def firstMember? (name : String) : List Value → Evaluated (Option Value)
  | [] => return none
  | type :: rest => do
    match ← ownMember? type name with
    | some found => return some found
    | none => firstMember? name rest

/-- The member that a name reaches in a type. -/
def memberOfType? (type : Value) (name : String) : Evaluated (Option Value) := do
  firstMember? name (← orderOfType type)

/-- The member that a name reaches in the type of a value. -/
def memberOf? (value : Value) (name : String) : Evaluated (Option Value) := do
  memberOfType? (← typeOf value) name

end SelectionGen.Evaluation
