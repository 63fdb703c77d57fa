import SelectionGen.CommandLine.Options
import SelectionGen.Files.Tree
import SelectionGen.Text.Printable

/-! Restrictions to single fields, as they are given one by one: a type, a dot, and a field. Nothing behind
the dot restricts the type to no fields at all, or adds nothing to those given. -/
namespace SelectionGen.CommandLine

/-- An item without a dot, or with nothing in front of it. -/
inductive IncludeError
  | notTypeAndField (item : String)
deriving DecidableEq, Repr

def IncludeError.message : IncludeError → String
  | .notTypeAndField item => "Expected Type.field, got " ++ Text.quoted item

/-- Fields by type, types in the order of their first item. -/
abbrev Includes := List (String × List String)

/-- The type of an item and what stands behind the first dot. -/
def parseInclude (item : String) : Except IncludeError (String × String) :=
  let characters := item.toList
  let typeName := characters.takeWhile fun c => c != '.'
  match typeName, characters.drop typeName.length with
  | _ :: _, _ :: fieldName => .ok (String.ofList typeName, String.ofList fieldName)
  | _, _ => .error (.notTypeAndField item)

/-- The restrictions with one more field, unless that is empty; the type gets an entry in any case. -/
def Includes.add (includes : Includes) (typeName fieldName : String) : Includes :=
  let added := if fieldName = "" then [] else [fieldName]
  if includes.any fun (other, _) => other == typeName then
    includes.map fun (other, fields) =>
      if other = typeName then (other, fields ++ added) else (other, fields)
  else includes ++ [(typeName, added)]

/-- The restrictions that items give on top of earlier ones, or the first item that is none. -/
def parseIncludesOnto (includes : Includes) : List String → Except IncludeError Includes
  | [] => .ok includes
  | item :: rest => do
    let (typeName, fieldName) ← parseInclude item
    parseIncludesOnto (includes.add typeName fieldName) rest

def parseIncludes (items : List String) : Except IncludeError Includes :=
  parseIncludesOnto [] items

end SelectionGen.CommandLine

/-! What the arguments of the program ask for, and how they can be wrong. Options are checked in the order
in which they are first given, then those that are missing, then arguments that nothing asked for. Arguments
are texts of Unicode scalar values; bytes of a command line that are no such text are left out. -/
namespace SelectionGen.CommandLine

/-- The options of the program itself. -/
inductive ProgramOption
  | version
  | help
deriving DecidableEq, Repr

/-- The options of the command that generates code. -/
inductive GenerateOption
  | schema
  | output
  | settings
  | package
  | restrict
  | header
  | verbose
  | help
deriving DecidableEq, Repr

def ProgramOption.form : ProgramOption → OptionForm
  | version => ⟨"--version", none, false⟩
  | help => ⟨"--help", none, false⟩

def GenerateOption.form : GenerateOption → OptionForm
  | schema => ⟨"--schema", some 's', true⟩
  | output => ⟨"--output", some 'o', true⟩
  | settings => ⟨"--config", some 'c', true⟩
  | package => ⟨"--package-name", some 'p', true⟩
  | restrict => ⟨"--include", some 'i', true⟩
  | header => ⟨"--header", none, true⟩
  | verbose => ⟨"--verbose", some 'v', false⟩
  | help => ⟨"--help", none, false⟩

def programOptions : OptionSet ProgramOption := ⟨[.version, .help], ProgramOption.form⟩

def generateOptions : OptionSet GenerateOption :=
  ⟨[.schema, .output, .settings, .package, .restrict, .header, .verbose, .help], GenerateOption.form⟩

/-- What an option calls the path that it takes. -/
def GenerateOption.pathNoun : GenerateOption → String
  | settings => "File"
  | _ => "Path"

/-- An option with all its names. -/
def OptionForm.label (form : OptionForm) : String :=
  match form.short? with
  | some letter => "'" ++ form.long ++ "' / '-" ++ letter.toString ++ "'"
  | none => "'" ++ form.long ++ "'"

/-- The command whose usage is explained. -/
inductive Scope
  | program
  | generate
deriving DecidableEq, Repr

def Scope.name : Scope → String
  | program => "main"
  | generate => "main generate"

def Scope.usage : Scope → String
  | program => "Usage: main [OPTIONS] COMMAND [ARGS]..."
  | generate => "Usage: main generate [OPTIONS]"

/-- How arguments are wrong. -/
inductive UsageError
  | option (fault : OptionFault)
  | outputMissing
  | schemaNotFound (path : String)
  | settingsNotFound (path : String)
  | settingsIsDirectory (path : String)
  | unreadable (named : GenerateOption) (path : String)
  | unexpected (first : String) (more : List String)
  | commandMissing
  | unknownCommand (name : String) (similar : List String)
  | badInclude (error : IncludeError)
  | schemaMissing
deriving DecidableEq, Repr

/-- The words that propose what was probably meant. -/
def proposal : List String → String
  | [] => ""
  | [word] => " Did you mean " ++ Text.quoted word ++ "?"
  | words =>
    let sorted := words.mergeSort fun a b => decide (a ≤ b)
    " (Did you mean one of: " ++ ", ".intercalate (sorted.map Text.quoted) ++ "?)"

def OptionFault.message : OptionFault → String
  | unknown name similar => "No such option " ++ Text.quoted name ++ "." ++ proposal similar
  | valueMissing name => "Option " ++ Text.quoted name ++ " requires an argument."
  | valueUnwanted name => "Option " ++ Text.quoted name ++ " does not take a value."

/-- A value that an option does not accept. -/
def invalidValue (label message : String) : String :=
  "Invalid value for " ++ label ++ ": " ++ message

namespace UsageError

def message : UsageError → String
  | option fault => fault.message
  | outputMissing => "Missing option " ++ GenerateOption.output.form.label ++ "."
  | schemaNotFound path =>
    invalidValue GenerateOption.schema.form.label
      ("Path " ++ Text.quoted path ++ " does not exist.")
  | settingsNotFound path =>
    invalidValue GenerateOption.settings.form.label
      ("File " ++ Text.quoted path ++ " does not exist.")
  | settingsIsDirectory path =>
    invalidValue GenerateOption.settings.form.label
      ("File " ++ Text.quoted path ++ " is a directory.")
  | unreadable named path =>
    invalidValue named.form.label (named.pathNoun ++ " " ++ Text.quoted path ++ " is not readable.")
  | unexpected first [] => "Got unexpected extra argument (" ++ first ++ ")"
  | unexpected first more =>
    "Got unexpected extra arguments (" ++ " ".intercalate (first :: more) ++ ")"
  | commandMissing => "Missing command."
  | unknownCommand name similar =>
    "No such command " ++ Text.quoted name ++ "." ++ proposal similar
  | badInclude error => invalidValue GenerateOption.restrict.form.long error.message
  | schemaMissing => "No schema given. Use --schema or schema_paths in --config."

/-- Whether the message comes with a reminder of the usage. It does not when a value is missing or
superfluous, because then the rest of the arguments was not understood. -/
def showsUsage : UsageError → Bool
  | option (.valueMissing _) => false
  | option (.valueUnwanted _) => false
  | _ => true

end UsageError

/-- A run of the command that generates code, as its arguments ask for it. The header, like all of them, has
no half of a surrogate pair in it. -/
structure Request where
  schemas : List String
  output : String
  settings? : Option String
  package? : Option String
  includes : List String
  header? : Option String
  verbose : Bool
deriving DecidableEq, Repr

/-- What arguments ask for. -/
inductive Invocation
  | help (scope : Scope)
  | version
  | generate (request : Request)
deriving DecidableEq, Repr

/-- The values of an option in the order given. -/
def valuesOf [DecidableEq ω] (given : List (Given ω)) (option : ω) : List String :=
  (given.filter fun item => item.option = option).map Given.value

/-- What keeps arguments from being read: a misuse of a command, or a path that no system takes. -/
inductive ArgumentError
  | misuse (scope : Scope) (error : UsageError)
  | zeroInPath
deriving DecidableEq, Repr

/-- What a path leads to, if it can be asked for at all. -/
def askFor (tree : Files.Tree) (current : Files.Place) (path : String) :
    Except ArgumentError (Option Files.Place) :=
  if path.contains '\x00' then .error .zeroInPath else .ok (tree.find? current path)

/-- What a path of an option leads to has to be readable. -/
def checkReadable (tree : Files.Tree) (option : GenerateOption) (path : String) (place : Files.Place) :
    Except ArgumentError Unit :=
  if (tree.access place).reads then .ok () else .error (.misuse .generate (.unreadable option path))

/-- Checks the values of an option: files that are named have to be there, and what is there has to be readable. -/
def checkOption (tree : Files.Tree) (current : Files.Place) (given : List (Given GenerateOption))
    (option : GenerateOption) : Except ArgumentError Unit :=
  match option with
  | .schema =>
    (valuesOf given .schema).forM fun path => do
      match ← askFor tree current path with
      | none => throw (.misuse .generate (.schemaNotFound path))
      | some place => checkReadable tree .schema path place
  | .output =>
    ((valuesOf given .output).getLast?.toList).forM fun path => do
      match ← askFor tree current path with
      | none => return
      | some place => checkReadable tree .output path place
  | .settings =>
    ((valuesOf given .settings).getLast?.toList).forM fun path => do
      match ← askFor tree current path with
      | none => throw (.misuse .generate (.settingsNotFound path))
      | some place =>
        if tree.isDirectory place then throw (.misuse .generate (.settingsIsDirectory path))
        checkReadable tree .settings path place
  | _ => .ok ()

/-- Of an option that can be given only once, the last value counts. -/
def Request.ofGiven? (given : List (Given GenerateOption)) : Option Request := do
  let output ← (valuesOf given .output).getLast?
  return { schemas := valuesOf given .schema
           output
           settings? := (valuesOf given .settings).getLast?
           package? := (valuesOf given .package).getLast?
           includes := valuesOf given .restrict
           header? := (valuesOf given .header).getLast?
           verbose := !(valuesOf given .verbose).isEmpty }

/-- Reads the arguments of the command that generates code. -/
def Invocation.ofGenerateArguments (tree : Files.Tree) (current : Files.Place)
    (arguments : List String) : Except ArgumentError Invocation := do
  let misuse := ArgumentError.misuse .generate
  let (given, others) ← (generateOptions.scan true arguments).mapError fun fault => misuse (.option fault)
  if !(valuesOf given .help).isEmpty then return .help .generate
  ((given.map Given.option).eraseDups).forM (checkOption tree current given)
  match Request.ofGiven? given, others with
  | none, _ => throw (misuse .outputMissing)
  | some request, [] => return .generate request
  | some _, first :: more => throw (misuse (.unexpected first more))

/-- What options of the program ask for; nothing if there are none. -/
def Invocation.ofProgramOptions? (given : List (Given ProgramOption)) : Option Invocation :=
  given.head?.map fun item =>
    match item.option with
    | .version => .version
    | .help => .help .program

/-- What to say about arguments that begin with no known command. If the first of them looks like an
option, which it can do behind two dashes, it is read as one after all. -/
def Invocation.ofUnknownCommand (name : String) (rest : List String) :
    Except ArgumentError Invocation :=
  match programOptions.scan false (name :: rest) with
  | .error fault => .error (.misuse .program (.option fault))
  | .ok (given, _) =>
    match Invocation.ofProgramOptions? given with
    | some invocation => .ok invocation
    | none => .error (.misuse .program (.unknownCommand name (Text.closeWords name ["generate"])))

/-- Reads the arguments of the program. -/
def Invocation.ofArguments (tree : Files.Tree) (current : Files.Place) (arguments : List String) :
    Except ArgumentError Invocation :=
  match programOptions.scan false arguments with
  | .error fault => .error (.misuse .program (.option fault))
  | .ok (given, others) =>
    match Invocation.ofProgramOptions? given, others with
    | some invocation, _ => .ok invocation
    | none, [] =>
      if arguments.isEmpty then .ok (.help .program) else .error (.misuse .program .commandMissing)
    | none, "generate" :: rest => Invocation.ofGenerateArguments tree current rest
    | none, name :: rest => Invocation.ofUnknownCommand name rest

end SelectionGen.CommandLine
