import SelectionGen.Archive.Unpack
import SelectionGen.CommandLine.Request
import SelectionGen.Generation
import SelectionGen.Settings.Validate
import SelectionGen.Target.Package

/-! A whole run of the program on a file tree: what it prints, how it ends, and the tree it leaves. -/
namespace SelectionGen.CommandLine

open Files

/-- Where a run takes place: the files that are there, the current directory, and the places that the
first, second, … temporary directory gets. -/
structure Workspace where
  tree : Tree
  current : Place
  temporary : Nat → Place

/-- Faults that a run explains. -/
inductive Refusal
  | settings (form : Settings.Form) (faults : List Settings.SettingsFault)
  | schema (error : Sdl.SyntaxError)
  | clash (clash : Projection.Clash)
  | files (error : Target.RenderError)
deriving DecidableEq, Repr

/-- Faults that end a run as they are. -/
inductive Breakdown
  | zeroInPath
  | encoding (error : Text.Utf8.DecodeError)
  | archive (error : Archive.ArchiveError)
  | rendering (error : Target.RenderError)
  | files (error : FileError)
deriving DecidableEq

/-- How a run ends. -/
inductive Ending
  | finished
  | misused (scope : Scope) (error : UsageError)
  | refused (refusal : Refusal)
  | broken (breakdown : Breakdown)
deriving DecidableEq

/-- What a run has printed, the tree as it is, how many temporary directories were made, and those that
have to go at the end. -/
structure Progress where
  lines : List String
  tree : Tree
  made : Nat
  temporaries : List Place

/-- A part of a run. What was printed and written before it ends stays. -/
abbrev Run := ExceptT Ending (StateM Progress)

/-- What a run leaves. -/
structure Report where
  lines : List String
  ending : Ending
  tree : Tree

/-- Where a setting is, its parts joined with dots. -/
def faultPlace (fault : Settings.SettingsFault) : String :=
  ".".intercalate (fault.location.map fun
    | .name name => name
    | .index index => toString index)

/-- A fault of settings in one line. -/
def settingsLine (form : Settings.Form) (fault : Settings.SettingsFault) : String :=
  let words := (fault.cause.message? form).getD "Invalid JSON"
  if fault.location.isEmpty then words else faultPlace fault ++ ": " ++ words

def Refusal.message : Refusal → String
  | settings form faults =>
    "\n".intercalate ("Invalid configuration:" :: faults.map (settingsLine form))
  | schema error => "Invalid schema: " ++ error.message
  | clash found => found.message
  | files error => error.message

def Breakdown.message : Breakdown → String
  | zeroInPath => "embedded null byte"
  | encoding error => error.message
  | archive error => error.message
  | rendering error => error.message
  | files error => error.message

namespace Ending

def exitCode : Ending → Nat
  | finished => 0
  | misused .. => 2
  | refused _ => 1
  | broken _ => 1

/-- The lines that explain an ending. A breakdown is not explained here. -/
def lines : Ending → List String
  | finished => []
  | misused scope error =>
    (if error.showsUsage then
      [scope.usage, "Try '" ++ scope.name ++ " --help' for help.", ""]
    else []) ++ ["Error: " ++ error.message]
  | refused refusal => ["Error: " ++ refusal.message]
  | broken _ => []

end Ending

namespace Run

def finish (ending : Ending) : Run α := throw ending

def say (line : String) : Run Unit :=
  modify fun progress => { progress with lines := progress.lines ++ [line] }

def sayAll (lines : List String) : Run Unit := lines.forM say

/-- Goes on with a value, or ends the run with what is wrong. -/
def orFinish (result : Except ε α) (ending : ε → Ending) : Run α :=
  match result with
  | .ok value => return value
  | .error error => finish (ending error)

/-- The settings in a file. -/
def readSettings (current : Place) (path : String) : Run Settings := do
  let path := (Path.ofString path).render
  let content ← orFinish (atPath path ((← get).tree.read current path)) fun error => .broken (.files error)
  let text ← orFinish (Text.Utf8.decode content) fun error => .broken (.encoding error)
  orFinish (Settings.ofText (String.ofList (Text.unifyLineEnds text.toList))) fun faults =>
    .refused (.settings .text faults)

/-- The settings of a request: those in its file, then what the other arguments say. Restrictions given
as arguments replace those of the same types. An empty package name says nothing. -/
def chooseSettings (current : Place) (request : Request) : Run Settings := do
  let settings ← match request.settings? with
    | none => pure {}
    | some path => readSettings current path
  let includes ← orFinish (parseIncludes request.includes) fun error =>
    .misused .generate (.badInclude error)
  let settings := { settings with includeFields := includes ++ settings.includeFields }
  match request.package?.filter fun name => name ≠ "" with
  | none => return settings
  | some name =>
    match Settings.PackageName.ofString? name with
    | some packageName => return { settings with packageName }
    | none =>
      finish (.refused (.settings .values [⟨[.name "package_name"], .badPackage name⟩]))

/-- A new temporary directory. -/
def makeTemporary (workspace : Workspace) : Run Place := do
  let progress ← get
  let directory := workspace.temporary progress.made
  set { progress with tree := progress.tree.addDirectory directory, made := progress.made + 1 }
  return directory

/-- Unpacks an archive into a temporary directory, which has to go at the end. -/
def unpackSchema (workspace : Workspace) (place : Place) : Run Place := do
  let name := place.getLastD ""
  let directory ← makeTemporary workspace
  match Archive.Format.ofName? name with
  | none =>
    modify fun progress => { progress with tree := progress.tree.remove directory }
    finish (.broken (.archive (.unsupportedFormat (Path.ofString name).suffix)))
  | some format =>
    let tree := (← get).tree
    let content := (tree.file? place).getD .empty
    let unpacked ← orFinish (Archive.unpack format content (renderPlace directory) tree) fun error =>
      .broken (.archive error)
    modify fun progress =>
      { progress with tree := unpacked, temporaries := progress.temporaries ++ [directory] }
    return directory

def absolutePath (place : Place) : Path := ⟨"/", place⟩

/-- The path that a schema argument stands for: itself, or where it was unpacked. -/
def schemaPath (workspace : Workspace) (verbose : Bool) (argument : String) : Run Path := do
  let tree := (← get).tree
  match tree.find? workspace.current argument with
  | none => finish (.misused .generate (.schemaNotFound argument))
  | some place =>
    let name := place.getLastD ""
    if tree.isRegular place && Archive.isArchiveName name then
      say ("Extracting archive " ++ name ++ "...")
      let directory ← unpackSchema workspace place
      if verbose then say ("  Extracted to: " ++ renderPlace directory)
      return absolutePath directory
    else return absolutePath place

/-- The header that a request asks for, made a comment unless it begins like one. -/
def headers (request : Request) : List String :=
  match request.header?.filter fun text => text ≠ "" with
  | none => []
  | some text => [if Text.beginsWith "#" text then text else "# " ++ text]

/-- The API of the schema, or how the run ends. -/
def generateApi (workspace : Workspace) (settings : Settings) : Run Api := do
  let generation := Generation.ofSettings settings [] (← get).tree workspace.current
  orFinish generation.outcome fun
    | .load .zeroInPath => .broken .zeroInPath
    | .load (.reading error) => .broken (.files error)
    | .load (.encoding error) => .broken (.encoding error)
    | .load (.grammar _ error) => .refused (.schema error)
    | .clash clash => .refused (.clash clash)

/-- Writes the files of an API below a directory and says where they are. -/
def writeFiles (output : Place) (settings : Settings) (headers : List String) (api : Api) :
    Run (List String) := do
  let progress ← get
  let path := renderPlace output
  let written := Target.write settings headers [] api path path progress.tree
  set { progress with tree := written.tree }
  orFinish written.outcome fun
    | .files error => if error.isAbrupt then .broken (.rendering error) else .refused (.files error)
    | .writing error => .broken (.files error)

/-- Where the files of a request go: the place that its path leads to, which need not be there yet. -/
def outputPlace (current : Place) (output : String) : Run Place := do
  let path := Path.ofString output
  let tree := (← get).tree
  let place := tree.settle tree.links.length (if path.isAbsolute then [] else current) path.parts
  orFinish (atPath path.render place) fun error => .broken (.files error)

/-- All of a run that generates code, but for what has to go at the end. -/
def generate (workspace : Workspace) (request : Request) : Run Unit := do
  let output ← outputPlace workspace.current request.output
  let settings ← chooseSettings workspace.current request
  let given ← request.schemas.mapM (schemaPath workspace request.verbose)
  let paths := settings.schemaPaths ++ given
  if paths.isEmpty && settings.schemas.isEmpty then finish (.misused .generate .schemaMissing)
  let settings := { settings with schemaPaths := paths }
  if request.verbose then
    sayAll (paths.map fun path => "Schema: " ++ path.render)
    say ("Output: " ++ renderPlace output)
    say ("Package: " ++ settings.packageName.text)
  say "Parsing schema..."
  let api ← generateApi workspace settings
  if request.verbose then
    say ("  Root types: " ++ toString api.queryTypes.length)
    say ("  Projections: " ++ toString api.clientProjections.length)
  say "Generating code..."
  let written ← writeFiles output settings (headers request) api
  if request.verbose then sayAll (written.map ("  " ++ ·))
  say ("Done! Generated " ++ toString api.clientProjections.length ++ " projections in "
    ++ toString written.length ++ " files under " ++ renderPlace output)

end Run

/-- Removes directories one after the other, up to the first that resists. -/
def removeEach (tree : Tree) : List Place → Tree × Option FileError
  | [] => (tree, none)
  | place :: rest =>
    match tree.removeAll place with
    | .ok tree => removeEach tree rest
    | .error error => (tree, some error)

/-- Runs a request. However it ends, the temporary directories noted on the way are removed; that this
fails hides how the run ended otherwise. -/
def Request.run (workspace : Workspace) (request : Request) : Report :=
  let (result, progress) := (Run.generate workspace request).run ⟨[], workspace.tree, 0, []⟩
  let (tree, resistance?) := removeEach progress.tree progress.temporaries
  let ending := match resistance?, result with
    | some error, _ => .broken (.files error)
    | none, .error ending => ending
    | none, .ok () => .finished
  ⟨progress.lines, ending, tree⟩

/-- An explanation of the options of a command. -/
def Scope.help (scope : Scope) : List String :=
  let names := match scope with
    | .program => programOptions.all.map programOptions.form
    | .generate => generateOptions.all.map generateOptions.form
  let optionLines := names.map fun form =>
    "  " ++ (form.short?.map fun letter => "-" ++ letter.toString ++ ", ").getD "" ++ form.long
      ++ (if form.takesValue then " VALUE" else "")
  let commandLines := match scope with
    | .program => ["", "Commands:", "  generate"]
    | .generate => []
  [scope.usage, "", "Options:"] ++ optionLines ++ commandLines

/-- Runs the program with the given arguments. -/
def run (workspace : Workspace) (arguments : List String) : Report :=
  match Invocation.ofArguments workspace.tree workspace.current arguments with
  | .error (.misuse scope error) => ⟨[], .misused scope error, workspace.tree⟩
  | .error .zeroInPath => ⟨[], .broken .zeroInPath, workspace.tree⟩
  | .ok (.help scope) => ⟨scope.help, .finished, workspace.tree⟩
  | .ok .version => ⟨["main, version 0.1.0"], .finished, workspace.tree⟩
  | .ok (.generate request) => request.run workspace

end SelectionGen.CommandLine
