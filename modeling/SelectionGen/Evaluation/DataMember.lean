import SelectionGen.Evaluation.Types

/-! Members of built-in types that hold data and are no functions. -/
namespace SelectionGen.Evaluation

open Target

/-- The number of a value in its parts, real and imaginary. -/
def partOfNumber (value : Value) (isReal : Bool) : Value :=
  match value with
  | .real _ => if isReal then value else .real 0.0
  | .complex first second => .real (if isReal then first else second)
  | other => .whole (if isReal then other.whole?.getD 0 else 0)

/-- The values that stand for arguments which are not given by place. -/
def defaultsByPlace (function : Function) : List Value :=
  (function.parameters.byPlace ++ function.parameters.regular).filterMap fun parameter =>
    function.defaults.lookup parameter.name

/-- The values that stand for arguments which are not given by name. -/
def defaultsByName (function : Function) : List (String × Value) :=
  function.parameters.byName.filterMap fun parameter =>
    (function.defaults.lookup parameter.name).map fun value => (parameter.name, value)

/-- A member of a function that holds data. -/
def dataOfFunction (function : Function) (name : String) : Evaluated Value := do
  match name with
  | "__name__" => return .text function.name
  | "__qualname__" => return .text function.path
  | "__doc__" => return function.documentation
  | "__module__" => return function.moduleName
  | "__dict__" => return .cell function.attributes
  | "__annotations__" => return .cell function.notes
  | "__globals__" => return .cell function.scope.globals
  | "__defaults__" =>
    let values := defaultsByPlace function
    return if values.isEmpty then .nothing else .tuple values
  | "__kwdefaults__" =>
    let values := defaultsByName function
    if values.isEmpty then return .nothing
    else allocate (.mapping (values.map fun (name, value) => (.text name, value)))
  | "__closure__" => return .nothing
  | _ => giveUp

/-- The module that a type comes from. -/
def moduleOfType (type : Value) : Evaluated Value := do
  match type with
  | .type _ => return .text "builtins"
  | .projectionType key => return .text key.moduleName
  | other => return (Value.lookUp (.text "__module__") (← ownMembers other)).getD (.text "builtins")

/-- The types that a type derives from directly. -/
def basesOfType (type : Value) : Evaluated (List Value) := do
  match type with
  | .type name => return (BuiltinType.baseOf? name).toList.map .type
  | .projectionType key =>
    return [if key = ⟨"", baseProjection.name⟩ then .type "object"
      else .projectionType ⟨"", baseProjection.name⟩]
  | other => return ((← definitionOf? other).map TypeDefinition.bases).getD []

/-- A member of a type that holds data. -/
def dataOfType (type : Value) (name : String) : Evaluated Value := do
  match name with
  | "__name__" => return .text (← nameOfType type)
  | "__qualname__" =>
    match ← definitionOf? type with
    | some definition => return .text definition.path
    | none => return .text (← nameOfType type)
  | "__module__" => moduleOfType type
  | "__mro__" => return .tuple (← orderOfType type)
  | "__bases__" => return .tuple (← basesOfType type)
  | "__base__" => return (← basesOfType type).headD .nothing
  | "__dict__" =>
    match ← definitionOf? type with
    | some definition => return .cell definition.members
    | none => giveUp
  | "__annotations__" =>
    match ← definitionOf? type with
    | some definition =>
      match Value.lookUp (.text name) (← entries (.cell definition.members)) with
      | some notes => return notes
      | none => allocate (.mapping [])
    | none =>
      raise "AttributeError"
        ("type object '" ++ (← nameOfType type) ++ "' has no attribute '" ++ name ++ "'")
  | "__doc__" =>
    match ← definitionOf? type with
    | some definition =>
      return (Value.lookUp (.text name) (← entries (.cell definition.members))).getD .nothing
    | none => return .text ""
  | _ => giveUp

/-- A member of what was raised that holds data. -/
def dataOfFailure (found : Instance) (name : String) : Evaluated Value := do
  match name with
  | "args" => return found.payload
  | "__dict__" => return .cell found.attributes
  | "value" | "code" =>
    match found.payload with
    | .tuple [] => return .nothing
    | .tuple [value] => return value
    | other => return other
  | "msg" =>
    match found.details.lookup name, found.payload with
    | some value, _ => return value
    | none, .tuple [value] => return value
    | _, _ => return .nothing
  | "__suppress_context__" => return (found.details.lookup name).getD (.truth false)
  | _ => return (found.details.lookup name).getD .nothing

/-- What a built-in member that holds data gives for a value. -/
def dataOf (value : Value) (typeName name : String) : Evaluated Value := do
  match typeName, name with
  | "object", "__class__" => typeOf value
  | "int", "real" | "int", "numerator" | "float", "real" | "complex", "real" =>
    return partOfNumber (← core value) true
  | "int", "imag" | "float", "imag" | "complex", "imag" => return partOfNumber (← core value) false
  | "int", "denominator" => return .whole 1
  | "range", _ =>
    match value with
    | .range first last step =>
      return .whole (if name = "start" then first else if name = "stop" then last else step)
    | _ => giveUp
  | "slice", _ =>
    match value with
    | .slice first last step =>
      return if name = "start" then first else if name = "stop" then last else step
    | _ => giveUp
  | "function", _ =>
    match ← cellOf? value with
    | some (.function function) => dataOfFunction function name
    | _ => giveUp
  | "method", "__self__" =>
    match value with
    | .bound _ owner => return owner
    | _ => giveUp
  | "method", "__func__" =>
    match value with
    | .bound function _ => return function
    | _ => giveUp
  | "builtin_function_or_method", "__name__" | "method-wrapper", "__name__"
  | "method_descriptor", "__name__" | "wrapper_descriptor", "__name__" =>
    match value with
    | .builtin name | .member _ name | .bound (.member _ name) _ => return .text name
    | _ => giveUp
  | "builtin_function_or_method", "__self__" | "method-wrapper", "__self__" =>
    match value with
    | .bound _ owner => return owner
    | _ => return .foreign "module" "builtins"
  | "type", _ => dataOfType value name
  | "module", "__dict__" =>
    match ← cellOf? value with
    | some (.module _ members) => return .cell members
    | _ => giveUp
  | "module", "__annotations__" =>
    match ← cellOf? value with
    | some (.module _ members) =>
      let known ← entries (.cell members)
      match Value.lookUp (.text name) known with
      | some notes => return notes
      | none =>
        let notes ← allocate (.mapping [])
        setCell members (.mapping (Value.putInto (.text name) notes known))
        return notes
    | _ => giveUp
  | "property", _ =>
    match ← cellOf? value with
    | some (.property getter setter deleter documentation) =>
      return match name with
        | "fget" => getter
        | "fset" => setter
        | "fdel" => deleter
        | _ => documentation
    | _ => giveUp
  | "staticmethod", "__func__" | "staticmethod", "__wrapped__" | "classmethod", "__func__"
  | "classmethod", "__wrapped__" =>
    match ← cellOf? value with
    | some (.wrapper _ function) => return function
    | _ => giveUp
  | "dict_keys", "mapping" | "dict_values", "mapping" | "dict_items", "mapping" =>
    match value with
    | .view _ mapping => return mapping
    | _ => giveUp
  | "generator", "__name__" | "coroutine", "__name__" | "async_generator", "__name__" =>
    match ← cellOf? value with
    | some (.generator found) => return .text found.name
    | _ => giveUp
  | "generator", "__qualname__" | "coroutine", "__qualname__" | "async_generator", "__qualname__" =>
    match ← cellOf? value with
    | some (.generator found) => return .text found.path
    | _ => giveUp
  | "NoneType", "__doc__" | "NotImplementedType", "__doc__" | "ellipsis", "__doc__"
  | "generator", "__doc__" => return .nothing
  | _, "__doc__" => return .text ""
  | _, "__hash__" => return .nothing
  | _, _ =>
    match ← cellOf? value with
    | some (.thing found) =>
      if ← derivesFrom found.type (.type "BaseException") then dataOfFailure found name else giveUp
    | _ => giveUp

end SelectionGen.Evaluation
