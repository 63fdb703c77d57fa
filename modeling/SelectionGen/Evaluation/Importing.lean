import SelectionGen.Evaluation.Iteration
import SelectionGen.Evaluation.Library
import SelectionGen.Evaluation.Names
import SelectionGen.Selection.Members
import SelectionGen.Target.Grammar
import SelectionGen.Target.Placement

/-! Importing modules. A module is loaded behind the package that its name continues, known from when it begins
to load, and forgotten if it fails. The code of a module is run up to its generated classes, which are bound
behind it. -/
namespace SelectionGen.Evaluation

open Target

namespace Importing

/-- Raises that there is no module of a name, for a reason if there is one. -/
def missModule (name reason : String) : Evaluated α :=
  raiseWith "ModuleNotFoundError" [.text ("No module named " ++ Text.quoted name ++ reason)]
    [("name", .text name), ("msg", .text ("No module named " ++ Text.quoted name ++ reason))]

/-- The file that makes a package of a directory. -/
def packageFileName : String := "__init__.py"

/-- The path of a module's file, and whether it is that of a package. -/
def pathOf? (files : Target.Files) (name : String) : Option (String × Bool) :=
  let path := packagePath name
  let ofPackage := path ++ "/" ++ packageFileName
  let ofModule := path ++ ".py"
  if (files.lookup ofPackage).isSome then some (ofPackage, true)
  else if (files.lookup ofModule).isSome then some (ofModule, false)
  else none

/-- The name in front of the last dot, and the one behind it. -/
def splitName (name : String) : Option String × String :=
  let parts := Text.pieces '.' name
  (if parts.length < 2 then none else some (".".intercalate parts.dropLast), parts.getLastD "")

/-- Where modules of a package are looked for, as its file says. -/
def searchPath (path : String) : String :=
  "/".intercalate (Text.pieces '/' path).dropLast

/-- The names that a module begins with. -/
def firstNames (name path : String) (isPackage : Bool) : Evaluated (List (Value × Value)) := do
  let package := if isPackage then name else ((splitName name).1).getD ""
  let places ← if isPackage then
      pure [(Value.text "__path__", ← newList [.text (searchPath path)])]
    else pure []
  return [(.text "__name__", .text name), (.text "__doc__", .nothing), (.text "__package__", .text package),
      (.text "__loader__", .foreign "SourceFileLoader" name),
      (.text "__spec__", .foreign "ModuleSpec" name)] ++ places
    ++ [(.text "__file__", .text path), (.text "__cached__", .text path),
      (.text "__builtins__", .foreign "dict" "builtins")]

/-- Raises what is wrong with code that cannot be run. -/
def raiseCodeFault (fileName : String) (fault : CodeFault) : Evaluated α := do
  let message := fault.problem.message
  let shown := message ++ " (" ++ fileName ++ ", line " ++ toString fault.line ++ ")"
  raiseWith "SyntaxError" [.text message, .tuple [.text fileName, .whole fault.line, .nothing, .nothing]]
    [("msg", .text message), ("filename", .text fileName), ("lineno", .whole fault.line),
      ("shown", .text shown)]

/-- The text that documents code, if it begins with one. -/
def documentation? (code : Code) : Option String :=
  match code.head?.map Statement.form with
  | some (.expression ⟨_, .constant (.text text)⟩) => some text
  | _ => none

/-- The names that a statement binds in its module. -/
def boundBy (statement : Statement) : List String :=
  let block := surveyed .module none (Survey.statement (surveyDepth [statement]) statement)
  block.names.filterMap fun (name, marks) => if marks.isBound || marks.ofModule then some name else none

/-- Runs a statement of a module. What it binds is not known where what it does is not. -/
def runTopLevel (scope : Scope) (statement : Statement) : Evaluated Unit := do
  let before ← get
  tryCatch (do let _ ← perform (.run scope [statement])) fun interruption => do
    match interruption with
    | .unknown =>
      modify fun memory => { memory with
        depth := before.depth, handled := before.handled, given := before.given
        describing := before.describing, beginning := before.beginning }
      (boundBy statement).forM fun name => bindInModule scope.globals name (.foreign "" "")
    | other => throw other

/-- Binds the generated classes of a module. -/
def bindClasses (scope : Scope) (name : String) (classes : List ClassDeclaration) : Evaluated Unit :=
  classes.forM fun declaration => do
    match Program.classFault? declaration with
    | some fault => raise fault.typeName fault.message
    | none => bindInModule scope.globals declaration.name (.projectionType ⟨name, declaration.name⟩)

/-- Runs the code of a module. A package defines no classes of its own, whatever module has its name. -/
def runCode (scope : Scope) (name fileName text : String) (isPackage : Bool) : Evaluated Unit := do
  match readCode text with
  | .error _ => giveUp
  | .ok code =>
    match checkCode code with
    | .error fault => raiseCodeFault fileName fault
    | .ok () =>
      let found? := (← read).program.module? name
      let classes := if isPackage then [] else (found?.map Target.Module.classes).getD []
      let hasTextTypes := match FeatureRequest.preamble code with
        | .ok preamble => preamble.names.contains FeatureRequest.textTypes
        | .error _ => false
      let scope := { scope with hasTextTypes }
      match documentation? code with
      | some text => bindInModule scope.globals "__doc__" (.text text)
      | none => pure ()
      (code.take (code.length - classes.length)).forM (runTopLevel scope)
      bindClasses scope name classes

/-- Loads a module from its file. -/
def loadFile (name path : String) (isPackage : Bool) (text : String) : Evaluated Value := do
  let globals ← allocateId (.mapping (← firstNames name path isPackage))
  let module ← allocate (.module name globals)
  modify fun memory => { memory with
    modules := memory.modules ++ [(name, module)], beginning := name :: memory.beginning }
  let fileName := (Text.pieces '/' path).getLastD ""
  let attempt := runCode { globals } name fileName text isPackage
  tryCatch attempt fun interruption => do
    modify fun memory => { memory with
      modules := memory.modules.filter fun (known, _) => known ≠ name
      beginning := memory.beginning.erase name }
    throw interruption
  modify fun memory => { memory with beginning := memory.beginning.erase name }
  return module

/-- The mapping of what a module knows by name. -/
def membersOf? (module : Value) : Evaluated (Option CellId) := do
  match ← cellOf? module with
  | some (.module _ members) => return some members
  | _ => return none

/-- Whether a package still looks for its modules where they are. -/
def findsModules (parent : Value) (path : String) : Evaluated Bool := do
  match ← membersOf? parent with
  | none => return false
  | some members =>
    match Value.lookUp (.text "__path__") (← entries (.cell members)) with
    | none => return false
    | some places => do
      let elements ← elementsOf places
      return elements.any fun element => element.isSameKey (.text (searchPath path))

/-- Whether a module is a package. -/
def isPackage (module : Value) : Evaluated Bool := do
  match ← membersOf? module with
  | some members => return (Value.lookUp (.text "__path__") (← entries (.cell members))).isSome
  | none => return false

/-- Loads the module of a name whose package is loaded. -/
def loadBehind (parent? : Option (String × Value)) (name : String) : Evaluated Value := do
  match (← get).modules.lookup name with
  | some module => return module
  | none =>
    let files := (← read).program.files
    match parent? with
    | some (parentName, parent) =>
      if !(← isPackage parent) then
        missModule name ("; " ++ Text.quoted parentName ++ " is not a package")
    | none => pure ()
    match pathOf? files name with
    | none => missModule name ""
    | some (path, isPackage) =>
      let place := if isPackage then searchPath path else path
      let isFound ← match parent? with
        | some (_, parent) => findsModules parent place
        | none => pure true
      if !isFound then missModule name ""
      let module ← loadFile name path isPackage ((files.lookup path).getD "")
      match parent? with
      | some (_, parent) =>
        match ← membersOf? parent with
        | some members => bindInModule members (splitName name).2 module
        | none => pure ()
      | none => pure ()
      return module

/-- Loads modules one behind the other, each as a part of the one before. -/
def loadParts (parent? : Option (String × Value)) : List String → Evaluated (Option Value)
  | [] => return parent?.map Prod.snd
  | part :: rest => do
    let name := match parent? with
      | some (parentName, _) => parentName ++ "." ++ part
      | none => part
    let module ← loadBehind parent? name
    loadParts (some (name, module)) rest

/-- The module of a library, if there is one of the name. -/
def libraryModule (parts : List String) : Evaluated Value := do
  let name := ".".intercalate parts
  match parts with
  | [] => missModule name ""
  | first :: rest =>
    let found := Value.foreign "module" name
    if openPackages.contains first then return found
    else
      match libraryPackages.lookup first, rest with
      | some _, [] => return found
      | some modules, second :: _ =>
        if modules.contains second then return found else missModule (first ++ "." ++ second) ""
      | none, _ =>
        if !plainModules.contains first then missModule first ""
        else
          match rest with
          | [] => return found
          | second :: _ =>
            if first = "os" ∧ second = "path" then return found
            else
              missModule (first ++ "." ++ second) ("; " ++ Text.quoted first ++ " is not a package")

/-- Whether a name begins with that of a module of the run. -/
def isOwn (name : String) : Evaluated Bool := do
  let first := (Text.pieces '.' name).headD ""
  return (pathOf? (← read).program.files first).isSome

/-- Loads a module by its whole name. -/
def load (name : String) : Evaluated Value := do
  if name = "" then raise "ValueError" "Empty module name"
  let parts := Text.pieces '.' name
  if ← isOwn name then
    match ← loadParts none parts with
    | some module => return module
    | none => giveUp
  else libraryModule parts

/-- The first module on the way to one. -/
def firstOf (name : String) : Evaluated Value := do
  let first := (Text.pieces '.' name).headD ""
  let _ ← load name
  if ← isOwn name then load first else return .foreign "module" first

/-- The whole name of a module that is named from a package, going up a step for each dot but the first. -/
def absoluteName (scope : Scope) (dots : Nat) (name : Option String) : Evaluated String := do
  if dots = 0 then return name.getD ""
  let known ← entries (.cell scope.globals)
  let package ← match Value.lookUp (.text "__package__") known with
    | some (.text package) => pure package
    | none | some .nothing =>
      match Value.lookUp (.text "__name__") known with
      | some (.text own) =>
        if (Value.lookUp (.text "__path__") known).isSome then pure own
        else pure (((splitName own).1).getD "")
      | _ => raise "KeyError" "'__name__' not in globals"
    | some _ => refuse "__package__ must be a string"
  if package = "" then
    raiseWith "ImportError" [.text "attempted relative import with no known parent package"]
      [("msg", .text "attempted relative import with no known parent package")]
  let parts := Text.pieces '.' package
  if parts.length < dots then
    raiseWith "ImportError" [.text "attempted relative import beyond top-level package"]
      [("msg", .text "attempted relative import beyond top-level package")]
  let base := ".".intercalate (parts.take (parts.length + 1 - dots))
  return match name with
    | some name => base ++ "." ++ name
    | none => base

/-- Loads the module of a package that a name may stand for. -/
def loadNamed (module : Value) (moduleName name : String) : Evaluated Unit := do
  if !(← isPackage module) then return
  match ← memberIfAny? module name with
  | some _ => return
  | none =>
    let wanted := moduleName ++ "." ++ name
    tryCatch (do let _ ← load wanted) fun interruption => do
      match interruption with
      | .raised exception =>
        match ← cellOf? exception with
        | some (.thing found) =>
          let isMissing ← isFailureOf exception "ModuleNotFoundError"
          let name? := found.details.lookup "name"
          if isMissing && (name?.map fun name => name.isSameKey (.text wanted)).getD false then return
          else throw interruption
        | _ => throw interruption
      | other => throw other

/-- What a name stands for that is imported from a module. -/
def importedFrom (module : Value) (moduleName name : String) : Evaluated Value := do
  match module with
  | .foreign .. => return if moduleName = FeatureRequest.source then .foreign "_Feature" name else .foreign "" ""
  | _ =>
    loadNamed module moduleName name
    match ← memberIfAny? module name with
    | some value => return value
    | none =>
      match (← get).modules.lookup (moduleName ++ "." ++ name) with
      | some value => return value
      | none =>
        let path ← match ← memberIfAny? module "__file__" with
          | some (.text path) => pure path
          | _ => pure "unknown location"
        let isPartial := (← get).beginning.contains moduleName
        let message := "cannot import name " ++ Text.quoted name ++ " from "
          ++ (if isPartial then
              "partially initialized module " ++ Text.quoted moduleName
                ++ " (most likely due to a circular import)"
            else Text.quoted moduleName)
          ++ " (" ++ path ++ ")"
        raiseWith "ImportError" [.text message] [("msg", .text message), ("name", .text moduleName)]

/-- Whether a name is kept to its module. -/
def isHidden (name : String) : Bool := Text.beginsWith "_" name

/-- The names that a module gives away. -/
def exportedNames (module : Value) (moduleName : String) : Evaluated (List String) := do
  match ← memberIfAny? module "__all__" with
  | some names =>
    (← elementsOf names).mapM fun name => do
      match name with
      | .text name => return name
      | other =>
        refuse ("Item in " ++ moduleName ++ ".__all__ must be str, not " ++ (← typeName other))
  | none =>
    match ← membersOf? module with
    | some members =>
      return (← entries (.cell members)).filterMap fun (name, _) =>
        name.text?.filter fun name => !isHidden name
    | none => return []

end Importing

open Importing in
/-- Imports modules and binds their names. -/
def importModules (scope : Scope) (found : List ImportedName) : Evaluated Unit :=
  found.forM fun imported => do
    match imported.alias? with
    | some name => bindName scope name (← load imported.name)
    | none =>
      let first := (Text.pieces '.' imported.name).headD ""
      bindName scope first (← firstOf imported.name)

open Importing in
/-- Imports names from a module and binds them, or all names that it gives away. -/
def importNames (scope : Scope) (dots : Nat) (moduleName : Option String)
    (names : Option (List ImportedName)) : Evaluated Unit := do
  let wanted ← absoluteName scope dots moduleName
  let module ← load wanted
  match names with
  | some names =>
    names.forM fun imported => loadNamed module wanted imported.name
    names.forM fun imported => do
      bindName scope (imported.alias?.getD imported.name) (← importedFrom module wanted imported.name)
  | none =>
    match module with
    | .foreign .. => bindName scope openName (.foreign "" "")
    | _ =>
      (← exportedNames module wanted).forM fun name => do
        loadNamed module wanted name
        bindName scope name (← memberOf module name)

end SelectionGen.Evaluation
