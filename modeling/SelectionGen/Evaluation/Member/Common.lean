import SelectionGen.Evaluation.Member.Slot

/-! Members that all values have, and those of types, functions, properties, generators, sources and what is
raised. -/
namespace SelectionGen.Evaluation

open Target

/-- The values without those that are named before. -/
def distinctNames (names : List String) : List String :=
  (names.foldl (fun kept name => if kept.contains name then kept else name :: kept) []).reverse

/-- The names of the own members of a type. -/
def ownNames (type : Value) : Evaluated (List String) := do
  match type with
  | .type name => return ((BuiltinType.ofName? name).map fun found => found.members.map Prod.fst).getD []
  | other => return (← ownMembers other).filterMap fun (name, _) => name.text?

/-- The names of the members of a type and of those it derives from. -/
def namesOfType (type : Value) : Evaluated (List String) := do
  return distinctNames ((← (← orderOfType type).mapM ownNames).flatten)

/-- The names that reach members of a value. -/
def namesOf (value : Value) : Evaluated (List String) := do
  match value with
  | .object id =>
    match (← get).store.object? id with
    | none => giveUp
    | some object =>
      let common := ((BuiltinType.ofName? "object").map fun found => found.members.map Prod.fst).getD []
      return (← read).program.memberNames object.classKey object.isBare common
  | .projectionType _ | .foreign .. => giveUp
  | _ =>
    if ← isType value then namesOfType value
    else
      match ← cellOf? value with
      | some (.module _ members) => return (← entries (.cell members)).filterMap fun (name, _) => name.text?
      | _ =>
        let known ← match ← knowledgeOf? value with
          | some knowledge => do pure ((← entries knowledge).filterMap fun (name, _) => name.text?)
          | none => pure []
        return distinctNames (known ++ (← namesOfType (← typeOf value)))

/-- What a value knows of itself, to be kept elsewhere. -/
def stateOf (value : Value) : Evaluated Value := do
  match value with
  | .object id =>
    let isBare := ((← get).store.object? id).all ProjectionObject.isBare
    return if isBare then .nothing else .state id
  | _ =>
    match ← cellOf? value with
    | some (.thing found) =>
      if (← entries (.cell found.attributes)).isEmpty then return .nothing
      else return .cell found.attributes
    | _ => return .nothing

/-- How a thing can be made again. -/
def recipeOf (value : Value) (isNewer : Bool) : Evaluated Value := do
  let type ← typeOf value
  let isOwn ← match value with
    | .object _ => pure true
    | _ => do
      match ← cellOf? value with
      | some (.thing found) => pure (found.payload matches .nothing)
      | _ => pure false
  if !isOwn then
    if isNewer then giveUp
    else refuse ("cannot pickle '" ++ (← nameOfType type) ++ "' object")
  let state ← stateOf value
  if isNewer then
    return .tuple [.foreign "function" "__newobj__", .tuple [type], state, .nothing, .nothing]
  else
    let made := Value.tuple [type, .type "object", .nothing]
    let function := Value.foreign "function" "_reconstructor"
    match state with
    | .nothing => return .tuple [function, made]
    | state => return .tuple [function, made, state]

/-- A new thing of a type, as a built-in type makes it when it is asked by name. -/
def newByName (owner : String) (given : Given) : Evaluated Value := do
  match given.arguments with
  | [] => refuse (owner ++ ".__new__(): not enough arguments")
  | type :: rest =>
    if !(← isType type) then
      refuse (owner ++ ".__new__(X): X is not a type object (" ++ (← typeName type) ++ ")")
    let shown ← nameOfType type
    if !(← derivesFrom type (.type owner)) then
      refuse (owner ++ ".__new__(" ++ shown ++ "): " ++ shown ++ " is not a subtype of " ++ owner)
    let base ← dataTypeOf type
    if base ≠ owner ∧ !(owner = "object" ∧ isPlainType base ∧ base = "object")
        ∧ (BuiltinType.ofName? base).any (fun found => found.members.any fun (name, _) => name = "__new__") then
      refuse (owner ++ ".__new__(" ++ shown ++ ") is not safe, use " ++ base ++ ".__new__()")
    let left : Given := { given with arguments := rest }
    match type with
    | .type name => if isFilledLater name then emptyOf name else construct name left
    | .projectionType key => return .object (← onStore ((← read).program.instantiate key))
    | type =>
      let isEmpty := rest.isEmpty && given.named.isEmpty
      match base, ← memberOfType? type "__new__", ← memberOfType? type "__init__" with
      | "object", some (.member ..), _ => makeThing type left
      | "object", _, _ =>
        if isEmpty then allocateThing type .nothing []
        else refuse "object.__new__() takes exactly one argument (the type to instantiate)"
      | _, _, _ => makeThing type left

/-- Makes a thing ready as its built-in type does it. -/
def initByName (owner : String) (value : Value) (given : Given) : Evaluated Value := do
  if isFilledLater owner then fillWith owner value given
  else if owner = "object" then
    if given.arguments.isEmpty && given.named.isEmpty then return .nothing
    else
      let type ← typeOf value
      match ← memberOfType? type "__init__", ← memberOfType? type "__new__" with
      | some (.member ..), some (.member "object" _) =>
        refuse ((← nameOfType type) ++ ".__init__() takes exactly one argument (the instance to initialize)")
      | some (.member ..), _ => return .nothing
      | _, _ => refuse "object.__init__() takes exactly one argument (the instance to initialize)"
  else if BuiltinType.isKindOf owner "BaseException" then
    match ← cellOf? value, value with
    | some (.thing found), .cell id =>
      if !given.named.isEmpty && (failureNames owner).isEmpty then
        refuse ((← nameOfType found.type) ++ "() takes no keyword arguments")
      let made ← newFailure found.type owner given
      match ← cellOf? made with
      | some (.thing fresh) =>
        setCell id (.thing { found with payload := fresh.payload, details := fresh.details })
        return .nothing
      | _ => giveUp
    | _, _ => giveUp
  else if owner = "module" then
    let _ ← construct owner given
    return .nothing
  else if owner = "type" then return .nothing
  else giveUp

/-- Calls a member that all values have. -/
def callCommon (name : String) (value : Value) (given : Given) : Evaluated Value := do
  let argument := (given.at? 0).getD .nothing
  match name with
  | "__format__" =>
    let specifier ← textOfArgument name "argument" argument
    if specifier = "" then return .text (← textOf value)
    else
      refuse ("unsupported format string passed to " ++ (← typeName value) ++ ".__format__")
  | "__reduce__" => recipeOf value false
  | "__reduce_ex__" =>
    let protocol ← indexOf argument
    match ← definedMember? value "__reduce__" with
    | some member => callDefined member value []
    | none => recipeOf value (2 ≤ protocol)
  | "__getstate__" => stateOf value
  | "__dir__" => newList ((← namesOf value).map .text)
  | "__sizeof__" =>
    match value, ← cellOf? value with
    | .object _, _ => return .whole 24
    | .nothing, _ | .ellipsis, _ | .undecided, _ => return .whole 16
    | _, some (.thing found) =>
      if found.type matches .cell _ then
        if found.payload matches .nothing then return .whole 24 else giveUp
      else return .whole 16
    | _, _ => giveUp
  | "__subclasshook__" => return .undecided
  | "__init_subclass__" =>
    given.refuseNames ((← nameOfType value) ++ ".__init_subclass__()")
    return .nothing
  | _ => giveUp

/-- Calls a member of a type. -/
def callOfType (name : String) (type : Value) (given : Given) : Evaluated Value := do
  let argument := (given.at? 0).getD .nothing
  match name with
  | "mro" => newList (← orderOfType type)
  | "__instancecheck__" => return .truth (← derivesFrom (← typeOf argument) type)
  | "__subclasscheck__" =>
    if ← isType argument then return .truth (← derivesFrom argument type)
    else refuse "issubclass() arg 1 must be a class"
  | "__prepare__" => newMapping []
  | "__dir__" => newList ((← namesOfType type).map .text)
  | "__or__" | "__ror__" =>
    if ← isTypeChoice argument then return .foreign "types.UnionType" "" else return .undecided
  | _ => giveUp

/-- Calls a member of a property. -/
def callOfProperty (name : String) (getter setter deleter documentation : Value) (given : Given) :
    Evaluated Value := do
  let argument := (given.at? 0).getD .nothing
  match name with
  | "getter" => allocate (.property argument setter deleter documentation)
  | "setter" => allocate (.property getter argument deleter documentation)
  | "deleter" => allocate (.property getter setter argument documentation)
  | "__get__" => perform (.call getter [argument] [])
  | "__set_name__" => return .nothing
  | _ => giveUp

/-- Calls a member of a generator. -/
def callOfGenerator (name : String) (id : CellId) (found : Generator) (given : Given) : Evaluated Value := do
  let ended : Generator := { found with progress := .giving [] (.returned .nothing) }
  match name with
  | "send" =>
    match (given.at? 0).getD .nothing, found.progress with
    | .nothing, _ =>
      match ← advance id found with
      | .ok value => return value
      | .error value => raiseEnd value
    | _, .waiting .. => refuse ("can't send non-None value to a just-started " ++ found.typeName)
    | _, .giving [] _ => raiseEnd .nothing
    | _, _ => giveUp
  | "close" =>
    setCell id (.generator ended)
    return .nothing
  | "throw" =>
    setCell id (.generator ended)
    let value := (given.at? 0).getD .nothing
    if ← isType value then
      throw (.raised (← perform (.call value (given.arguments.drop 1) [])))
    else if ← isThingOf value "BaseException" then throw (.raised value)
    else
      refuse ("exceptions must be classes or instances deriving from BaseException, not "
        ++ (← typeName value))
  | "__del__" => return .nothing
  | _ => giveUp

/-- How many values a source of a built-in kind still has. -/
def leftIn? (source : Source) : Evaluated (Option Nat) := do
  match source with
  | .elements _ sequence place => return ((← sizeOfCore? sequence).map fun size => size - place)
  | .backwards _ _ left => return some left
  | .remaining _ values => return some values.length
  | .entries _ _ place size => return some (size - place)
  | _ => return none

/-- Calls a member of a source of values. -/
def callOfSource (name : String) (source : Source) : Evaluated Value := do
  match name with
  | "__length_hint__" =>
    match ← leftIn? source with
    | some count => return .whole count
    | none => giveUp
  | "__reduce__" =>
    match source with
    | .elements _ sequence place => return .tuple [.builtin "iter", .tuple [sequence], .whole place]
    | .remaining _ [] => return .tuple [.builtin "iter", .tuple [.tuple []]]
    | _ => giveUp
  | _ => giveUp

/-- Calls a member of what can be raised. -/
def callOfFailure (name : String) (id : CellId) (found : Instance) (given : Given) : Evaluated Value := do
  let argument := (given.at? 0).getD .nothing
  match name with
  | "with_traceback" =>
    match argument with
    | .nothing | .foreign .. => return .cell id
    | _ => refuse "__traceback__ must be a traceback or None"
  | "add_note" =>
    match argument with
    | .text _ =>
      let known ← entries (.cell found.attributes)
      match Value.lookUp (.text "__notes__") known with
      | some notes =>
        let _ ← changed? .add notes (.tuple [argument])
        return .nothing
      | none =>
        let notes ← newList [argument]
        setCell found.attributes (.mapping (known ++ [(.text "__notes__", notes)]))
        return .nothing
    | other => refuse ("add_note() argument must be str, not " ++ (← shownType other))
  | "__reduce__" => return .tuple [found.type, found.payload]
  | "__setstate__" => return .nothing
  | _ => giveUp

/-- The places that a slice takes of a number of them. -/
def callOfSlice (name : String) (first last step : Value) (given : Given) : Evaluated Value := do
  match name with
  | "indices" =>
    let size ← indexOf ((given.at? 0).getD .nothing)
    if size < 0 then raise "ValueError" "length should not be negative"
    let places ← placesOf first last step size.toNat
    let low ← sliceNumber? last
    let stop := match low with
      | some value =>
        if 0 < places.step then Places.bounded value 0 size size
        else Places.bounded value (-1) (size - 1) size
      | none => if 0 < places.step then size else -1
    return .tuple [.whole places.first, .whole stop, .whole places.step]
  | "__reduce__" => return .tuple [.type "slice", .tuple [first, last, step]]
  | _ => giveUp

end SelectionGen.Evaluation
