import SelectionGen.Evaluation.Lookup

/-! Giving members to values and taking them away. Values of built-in types have the members that they have; modules,
functions and types that code defines can be given any, as can their things, unless the type looks after a
member itself. -/
namespace SelectionGen.Evaluation

open Target

/-- Members that hold data and are refused in few words. -/
def readOnlyMembers : List (String × String) :=
  [("function", "__globals__"), ("function", "__closure__"), ("module", "__dict__"), ("type", "__mro__"),
    ("property", "fget"), ("property", "fset"), ("property", "fdel"), ("range", "start"), ("range", "stop"),
    ("range", "step"), ("slice", "start"), ("slice", "stop"), ("slice", "step"), ("method", "__func__"),
    ("method", "__self__"), ("generator", "gi_code"), ("generator", "gi_frame")]

/-- Refuses to change a member that holds data. -/
def refuseData (typeName name : String) : Evaluated α :=
  if readOnlyMembers.contains (typeName, name) then raise "AttributeError" "readonly attribute"
  else
    raise "AttributeError" ("attribute '" ++ name ++ "' of '" ++ typeName ++ "' objects is not writable")

/-- Refuses to change a member of a value that cannot be given any. -/
def refuseChange (value : Value) (name : String) : Evaluated α := do
  let type ← typeOf value
  match ← memberOfType? type name with
  | some (.member owner known) =>
    if BuiltinType.ownMember? owner known = some .data && owner ≠ "object" then refuseData owner name
    else
      raise "AttributeError"
        ("'" ++ (← nameOfType type) ++ "' object attribute '" ++ name ++ "' is read-only")
  | _ => missMember value name

/-- Refuses to change a built-in type. -/
def refuseTypeChange (type : Value) (name : String) : Evaluated α := do
  refuse ("cannot set '" ++ name ++ "' attribute of immutable type '" ++ (← nameOfType type) ++ "'")

/-- Puts something into the mapping of what is known by name, or takes it out. -/
def changeKnowledge (owner : Value) (mapping : CellId) (name : String) (new : Option Value) :
    Evaluated Unit := do
  let found ← entries (.cell mapping)
  match new with
  | some new => setCell mapping (.mapping (Value.putInto (.text name) new found))
  | none =>
    if (Value.lookUp (.text name) found).isSome then
      setCell mapping (.mapping (Value.dropFrom (.text name) found))
    else missMember owner name

/-- Changes a type that code defines. -/
def changeType (id : CellId) (definition : TypeDefinition) (name : String) (new : Option Value) :
    Evaluated Unit := do
  match name, new with
  | "__name__", some (.text shown) => setCell id (.type { definition with name := shown })
  | "__qualname__", some (.text shown) => setCell id (.type { definition with path := shown })
  | "__name__", some other | "__qualname__", some other =>
    refuse ("can only assign string to " ++ definition.name ++ "." ++ name ++ ", not '"
      ++ (← typeName other) ++ "'")
  | "__dict__", _ | "__mro__", _ | "__base__", _ => refuseData "type" name
  | "__bases__", _ => giveUp
  | "__name__", none | "__qualname__", none | "__doc__", none | "__module__", none =>
    refuse ("cannot delete '" ++ name ++ "' attribute of immutable type '" ++ definition.name ++ "'")
  | _, _ => changeKnowledge (.cell id) definition.members name new

/-- Changes a function. -/
def changeFunction (id : CellId) (function : Function) (name : String) (new : Option Value) :
    Evaluated Unit := do
  let become (function : Function) : Evaluated Unit := setCell id (.function function)
  let refused (kind : String) : Evaluated Unit := refuse (name ++ " must be set to a " ++ kind ++ " object")
  match name, new with
  | "__name__", some (.text shown) => become { function with name := shown }
  | "__qualname__", some (.text shown) => become { function with path := shown }
  | "__name__", _ | "__qualname__", _ => refused "string"
  | "__doc__", _ => become { function with documentation := new.getD .nothing }
  | "__module__", _ => become { function with moduleName := new.getD .nothing }
  | "__annotations__", some (.cell notes) =>
    match ← cell? notes with
    | some (.mapping _) => become { function with notes }
    | _ => refused "dict"
  | "__annotations__", some _ => refused "dict"
  | "__code__", _ => refused "code"
  | "__defaults__", some (.tuple values) =>
    let taken := (function.parameters.byPlace ++ function.parameters.regular).map Parameter.name
    let kept := function.defaults.filter fun (name, _) => !taken.contains name
    become { function with
      defaults := kept ++ ((taken.reverse.zip values.reverse).reverse) }
  | "__defaults__", _ => refused "tuple"
  | "__kwdefaults__", _ => refused "dict"
  | "__dict__", _ => giveUp
  | "__globals__", _ | "__closure__", _ => refuseData "function" name
  | _, _ => changeKnowledge (.cell id) function.attributes name new

/-- Changes what was raised, where its type holds data. -/
def changeFailure (id : CellId) (found : Instance) (name : String) (new : Option Value)
    (elements : Value → Evaluated (List Value)) : Evaluated Unit := do
  match name, new with
  | "args", some new => setCell id (.thing { found with payload := .tuple (← elements new) })
  | "__cause__", some .nothing | "__context__", some .nothing =>
    setCell id (.thing { found with details := (name, .nothing) :: found.details })
  | "__cause__", some new | "__context__", some new =>
    if ← isThingOf new "BaseException" then
      setCell id (.thing { found with details := (name, new) :: found.details })
    else
      let kind := if name = "__cause__" then "cause" else "context"
      refuse ("exception " ++ kind ++ " must be None or derive from BaseException")
  | _, some new => setCell id (.thing { found with details := (name, new) :: found.details })
  | _, none =>
    setCell id (.thing { found with details := found.details.filter fun (known, _) => known ≠ name })

/-- Changes a thing: its type may look after the member, otherwise it becomes known of the thing. -/
def changeThing (id : CellId) (found : Instance) (name : String) (new : Option Value)
    (elements : Value → Evaluated (List Value)) : Evaluated Unit := do
  let value := Value.cell id
  let known ← memberOfType? found.type name
  let plain : Evaluated Unit := do
    match found.type with
    | .type typeName =>
      if BuiltinType.isKindOf typeName "BaseException" then
        changeKnowledge value found.attributes name new
      else refuseChange value name
    | _ => changeKnowledge value found.attributes name new
  match known with
  | some (.member owner _) =>
    if BuiltinType.ownMember? owner name = some .data then
      if BuiltinType.isKindOf owner "BaseException" && name ≠ "__dict__" then
        changeFailure id found name new elements
      else if owner = "object" then
        match name, new with
        | "__class__", some (.cell type) => setCell id (.thing { found with type := .cell type })
        | "__class__", some other =>
          if ← isType other then
            refuse "__class__ assignment only supported for mutable types or ModuleType subclasses"
          else refuse ("__class__ must be set to a class, not '" ++ (← typeName other) ++ "' object")
        | "__class__", none => refuse "can't delete __class__ attribute"
        | _, _ => plain
      else refuseData owner name
    else plain
  | some (.cell member) =>
    match ← cell? member with
    | some (.property _ setter deleter _) =>
      let change := if new.isSome then setter else deleter
      match change with
      | .nothing =>
        raise "AttributeError"
          ("property '" ++ name ++ "' of '" ++ (← nameOfType found.type) ++ "' object has no "
            ++ (if new.isSome then "setter" else "deleter"))
      | change =>
        let _ ← perform (.call change (value :: new.toList) [])
    | some (.thing _) =>
      match new, ← memberOf? (.cell member) "__set__", ← memberOf? (.cell member) "__delete__" with
      | some new, some setter, _ =>
        let _ ← perform (.call setter [.cell member, value, new] [])
      | none, _, some deleter =>
        let _ ← perform (.call deleter [.cell member, value] [])
      | _, _, _ => plain
    | _ => plain
  | _ =>
    match name, new with
    | "__dict__", some (.cell attributes) =>
      match ← cell? attributes with
      | some (.mapping _) => setCell id (.thing { found with attributes })
      | _ => refuse "__dict__ must be set to a dictionary, not a 'object'"
    | "__dict__", some other =>
      refuse ("__dict__ must be set to a dictionary, not a '" ++ (← typeName other) ++ "'")
    | _, _ => plain

/-- Gives a value a member or takes one away, as built-in types do it; `elements` takes values apart. -/
def changeMemberPlainly (value : Value) (name : String) (new : Option Value)
    (elements : Value → Evaluated (List Value)) : Evaluated Unit := do
  match value with
  | .foreign .. => return
  | .object _ | .projectionType _ | .state _ | .fields _ => giveUp
  | .type _ => refuseTypeChange value name
  | .cell id =>
    match ← cell? id with
    | some (.type definition) => changeType id definition name new
    | some (.function function) => changeFunction id function name new
    | some (.module _ members) =>
      if name = "__dict__" then refuseData "module" name
      else changeKnowledge value members name new
    | some (.thing found) => changeThing id found name new elements
    | some (.wrapper ..) | some (.parent ..) => giveUp
    | some (.generator generator) =>
      match name, new with
      | "__name__", some (.text shown) => setCell id (.generator { generator with name := shown })
      | "__qualname__", some (.text shown) => setCell id (.generator { generator with path := shown })
      | "__name__", _ | "__qualname__", _ => refuse (name ++ " must be set to a string object")
      | _, _ => refuseChange value name
    | _ => refuseChange value name
  | _ => refuseChange value name

/-- Gives a value a member or takes one away; its type may define how. -/
def changeMember (value : Value) (name : String) (new : Option Value)
    (elements : Value → Evaluated (List Value)) : Evaluated Unit := do
  let how := if new.isSome then "__setattr__" else "__delattr__"
  let defined? ← match ← cellOf? value with
    | some (.thing found) => do
      match ← memberOfType? found.type how with
      | some (.cell id) => pure (some (Value.cell id))
      | _ => pure none
    | _ => pure none
  match defined? with
  | some member =>
    let _ ← perform (.call member ([value, .text name] ++ new.toList) [])
  | none => changeMemberPlainly value name new elements

end SelectionGen.Evaluation
