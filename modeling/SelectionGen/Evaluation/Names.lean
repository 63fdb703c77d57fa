import SelectionGen.Evaluation.Lookup
import SelectionGen.Target.NameUse
import SelectionGen.Target.Nesting

/-! Names in blocks. A name means what the block binds it to, then what the frames around bind it to, then
what the module does, then what is built in. A name that its own block binds is not looked up further
around, except that a class falls back on the module. -/
namespace SelectionGen.Evaluation

open Target

/-- What going through a block finds in it. -/
def surveyed (kind : BlockKind) (className : Option String) (through : Survey Unit) : NameBlock :=
  match through.run { block := { kind }, outer := [{ kind := .module }], className } with
  | .ok ((), place) => place.block
  | .error _ => { kind }

/-- The names that a block binds for itself. -/
def ownBound (block : NameBlock) : List String :=
  block.names.filterMap fun (name, marks) =>
    if marks.isBound && !marks.ofModule && !marks.ofOuter then some name else none

/-- The names of the module in a block. -/
def boundInModule (block : NameBlock) : List String :=
  block.names.filterMap fun (name, marks) => if marks.ofModule then some name else none

/-- How far statements are gone through. -/
def surveyDepth (body : List Statement) : Nat := 2 * codeDepth .ofTree body + 2

namespace Scope

/-- A name as the block keeps it. -/
def kept (scope : Scope) (name : String) : String :=
  (scope.className.map fun owner => outerName owner name).getD name

end Scope

/-- Built-in types that have a name in all modules. -/
def namedTypes : List String :=
  ["object", "type", "int", "bool", "float", "complex", "str", "bytes", "bytearray", "list", "tuple", "dict",
    "set", "frozenset", "range", "slice", "enumerate", "zip", "map", "filter", "reversed", "property",
    "staticmethod", "classmethod", "super"]

/-- Built-in functions. -/
def namedFunctions : List String :=
  ["abs", "aiter", "all", "anext", "any", "ascii", "bin", "breakpoint", "callable", "chr", "compile", "delattr",
    "dir", "divmod", "eval", "exec", "format", "getattr", "globals", "hasattr", "hash", "hex", "id", "input",
    "isinstance", "issubclass", "iter", "len", "locals", "max", "min", "next", "oct", "open", "ord", "pow",
    "print", "repr", "round", "setattr", "sorted", "sum", "vars", "__build_class__", "__import__"]

/-- What is built in under other names, by the type that it is of. -/
def namedOthers : List (String × Value) :=
  [("Ellipsis", .ellipsis), ("NotImplemented", .undecided), (debugConstant, .truth true),
    ("EnvironmentError", .type "OSError"), ("IOError", .type "OSError"),
    ("memoryview", .foreign "type" "memoryview"), ("help", .foreign "_Helper" "help"),
    ("exit", .foreign "Quitter" "exit"), ("quit", .foreign "Quitter" "quit"),
    ("copyright", .foreign "_Printer" "copyright"), ("credits", .foreign "_Printer" "credits"),
    ("license", .foreign "_Printer" "license")]

/-- What a name means in all modules. -/
def providedValue? (name : String) : Option Value :=
  if namedTypes.contains name || BuiltinType.isKindOf name "BaseException" then some (.type name)
  else if namedFunctions.contains name then some (.builtin name)
  else namedOthers.lookup name

/-- The name under which it is kept that a module has names that are not known. -/
def openName : String := "*"

/-- Raises that a name means nothing. -/
def missName (name : String) : Evaluated α :=
  raiseWith "NameError" [.text ("name '" ++ name ++ "' is not defined")] [("name", .text name)]

/-- Raises that a name of the block has no value yet, or no longer. -/
def missLocal (name : String) : Evaluated α :=
  raiseWith "UnboundLocalError"
    [.text ("cannot access local variable '" ++ name ++ "' where it is not associated with a value")]
    [("name", .text name)]

/-- Raises that a name of a frame around has no value yet, or no longer. -/
def missOuter (name : String) : Evaluated α :=
  raiseWith "NameError"
    [.text ("cannot access free variable '" ++ name
      ++ "' where it is not associated with a value in enclosing scope")]
    [("name", .text name)]

/-- What a module knows by a name, if it does. -/
def inModule? (globals : CellId) (name : String) : Evaluated (Option Value) := do
  return Value.lookUp (.text name) (← entries (.cell globals))

/-- What a name means in a module. -/
def valueInModule (globals : CellId) (name : String) : Evaluated Value := do
  match ← inModule? globals name, providedValue? name with
  | some value, _ | none, some value => return value
  | none, none =>
    if (← inModule? globals openName).isSome then return .foreign "" "" else missName name

/-- The names of a frame, with their values as far as they have some. -/
def namesOfFrame (id : CellId) : Evaluated (List (String × Option Value)) := do
  match ← cell? id with
  | some (.frame names) => return names
  | _ => return []

/-- The first of some frames that has a name. -/
def frameOf? (name : String) : List CellId → Evaluated (Option CellId)
  | [] => return none
  | id :: rest => do
    if (← namesOfFrame id).any fun (known, _) => known == name then return some id
    else frameOf? name rest

/-- Gives a name of a frame a value or takes it away. -/
def setInFrame (id : CellId) (name : String) (value : Option Value) : Evaluated Unit := do
  let names ← namesOfFrame id
  let names := if names.any fun (known, _) => known == name then
      names.map fun (known, old) => if known = name then (known, value) else (known, old)
    else names ++ [(name, value)]
  setCell id (.frame names)

/-- What a name means in the frames around or in the module. -/
def valueAround (scope : Scope) (name : String) : Evaluated Value := do
  match ← frameOf? name scope.outer with
  | some id =>
    match (← namesOfFrame id).lookup name with
    | some (some value) => return value
    | _ => missOuter name
  | none => valueInModule scope.globals name

/-- What a name means in a block. -/
def valueOfName (scope : Scope) (name : String) : Evaluated Value := do
  let name := scope.kept name
  if scope.globalNames.contains name then valueInModule scope.globals name
  else
    match scope.place with
    | .module => valueInModule scope.globals name
    | .frame id =>
      match (← namesOfFrame id).lookup name with
      | some (some value) => return value
      | some none => missLocal name
      | none => valueAround scope name
    | .members id =>
      match Value.lookUp (.text name) (← entries (.cell id)) with
      | some value => return value
      | none =>
        if scope.names.contains name then valueInModule scope.globals name else valueAround scope name

/-- Binds a name of the module. -/
def bindInModule (globals : CellId) (name : String) (value : Value) : Evaluated Unit := do
  setCell globals (.mapping (Value.putInto (.text name) value (← entries (.cell globals))))

/-- Binds a name that a block declares to belong to a frame around. -/
def bindAround (scope : Scope) (name : String) (value : Value) : Evaluated Unit := do
  match ← frameOf? name scope.outer with
  | some id => setInFrame id name (some value)
  | none => bindInModule scope.globals name value

/-- Binds a name in a block. -/
def bindName (scope : Scope) (name : String) (value : Value) : Evaluated Unit := do
  let name := scope.kept name
  if scope.globalNames.contains name then bindInModule scope.globals name value
  else
    match scope.place with
    | .module => bindInModule scope.globals name value
    | .frame id =>
      if (← namesOfFrame id).any fun (known, _) => known == name then setInFrame id name (some value)
      else bindAround scope name value
    | .members id =>
      if scope.names.contains name then
        setCell id (.mapping (Value.putInto (.text name) value (← entries (.cell id))))
      else bindAround scope name value

/-- The block that a name belongs to which is bound within an expression. -/
def Scope.binding (scope : Scope) : Nat → Scope
  | 0 => scope
  | depth + 1 =>
    match scope.around with
    | some around => around.binding depth
    | none => scope

/-- Takes an entry out of a mapping of names. -/
def unbindIn (mapping : CellId) (name : String) : Evaluated Unit := do
  let known ← entries (.cell mapping)
  if (Value.lookUp (.text name) known).isSome then
    setCell mapping (.mapping (Value.dropFrom (.text name) known))
  else missName name

/-- Takes a name of a frame around away. -/
def unbindAround (scope : Scope) (name : String) : Evaluated Unit := do
  match ← frameOf? name scope.outer with
  | some id =>
    match (← namesOfFrame id).lookup name with
    | some (some _) => setInFrame id name none
    | _ => missOuter name
  | none => unbindIn scope.globals name

/-- Takes a name of a block away. -/
def unbindName (scope : Scope) (name : String) : Evaluated Unit := do
  let name := scope.kept name
  if scope.globalNames.contains name then unbindIn scope.globals name
  else
    match scope.place with
    | .module => unbindIn scope.globals name
    | .frame id =>
      match (← namesOfFrame id).lookup name with
      | some (some _) => setInFrame id name none
      | some none => missLocal name
      | none => unbindAround scope name
    | .members id =>
      if scope.names.contains name then unbindIn id name else unbindAround scope name

/-- The names that have a value in a block, with their values. -/
def namesOfBlock (scope : Scope) : Evaluated (List (Value × Value)) := do
  match scope.place with
  | .module => entries (.cell scope.globals)
  | .members id => entries (.cell id)
  | .frame id =>
    return (← namesOfFrame id).filterMap fun (name, value?) =>
      value?.map fun value => (.text name, value)

end SelectionGen.Evaluation
