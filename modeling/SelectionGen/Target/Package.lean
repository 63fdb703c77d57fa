import SelectionGen.Files.Write
import SelectionGen.Settings.Basic
import SelectionGen.Target.Grammar
import SelectionGen.Target.Module

/-! The files of a run. Each kind of projection has a module in its package, and every package on the way
to a module has a file that makes it one and exports the classes of its modules. All files are complete
and checked before any is given out, so an error leaves nothing half done.

A directory of templates can have modules written in another way. What the markup of a template makes of a
module is not settled here: any rule that gives a text or fails will do. Texts, those of headers included,
are sequences of Unicode scalar values throughout; half of a surrogate pair is no part of a text. -/
namespace SelectionGen.Target

/-- Why files cannot be given out. Templates fail with faults of a type of their own; where it is empty, none
of them fails. -/
inductive RenderError (ε : Type := Empty)
  | duplicateClass (package className : String)
  | malformed (path : String)
  | nullCharacter
  | unreadable
  | tooDeep
  | template (fault : ε)
deriving DecidableEq, Repr

/-- An error that no template has a part in. -/
def RenderError.widen {ε : Type} : RenderError → RenderError ε
  | duplicateClass package className => duplicateClass package className
  | malformed path => malformed path
  | nullCharacter => nullCharacter
  | unreadable => unreadable
  | tooDeep => tooDeep

def RenderError.message : RenderError → String
  | duplicateClass package className =>
    "Class " ++ className ++ " is generated twice in package " ++ package
  | malformed path => "Generated invalid Python for " ++ path
  | nullCharacter => "source code string cannot contain null bytes"
  | unreadable => ""
  | tooDeep => "maximum recursion depth exceeded during ast construction"

/-- Whether the error is one of the text itself that leaves nothing to report but itself. -/
def RenderError.isAbrupt : RenderError → Bool
  | nullCharacter | unreadable | tooDeep => true
  | _ => false

/-- Relative paths with the texts of files. -/
abbrev Files := List (String × String)

/-- A dotted package name as a relative path. -/
def packagePath (package : String) : String :=
  String.ofList (package.toList.map fun c => if c = '.' then '/' else c)

/-- The modules that an API needs; a kind of projection that does not occur needs none. -/
def moduleSources (api : Api) (settings : Settings) : List ModuleSource :=
  [⟨settings.clientPackage, projectionsModule, "Generated GraphQL projections.",
      api.clientProjections⟩,
    ⟨settings.queriesPackage, queriesModule, "Generated GraphQL root query projections.",
      api.queryTypes⟩].filter fun source => !source.projections.isEmpty

def ModuleSource.classNames (source : ModuleSource) : List String :=
  source.projections.map Projection.name

/-- The first name that has occurred before. -/
def firstRepeated? (seen : List String) : List String → Option String
  | [] => none
  | name :: rest => if seen.contains name then some name else firstRepeated? (name :: seen) rest

/-- The classes that modules define in a package. -/
def exportedNames (package : String) (sources : List ModuleSource) : List String :=
  (sources.filter fun source => source.package == package).flatMap ModuleSource.classNames

/-- Each package defines a class once, whichever of its modules it is in. -/
def checkUnique (before : List ModuleSource) : List ModuleSource → Except RenderError Unit
  | [] => .ok ()
  | source :: rest =>
    match firstRepeated? [] (source.classNames ++ exportedNames source.package before) with
    | some name => .error (.duplicateClass source.package name)
    | none => checkUnique (before ++ [source]) rest

/-- The path of a module's file. -/
def ModuleSource.path (source : ModuleSource) : String :=
  packagePath source.package ++ "/" ++ source.moduleName ++ ".py"

/-- The text of a module as it is declared. -/
def ModuleSource.text (source : ModuleSource) : String := source.toModule.render

/-- The file of a module as it is declared. -/
def ModuleSource.file (source : ModuleSource) : String × String := (source.path, source.text)

/-- The name under which a directory of templates can replace how modules are written. -/
def moduleTemplate : String := "projections.py.j2"

/-- What a template is told of a module. The local names are those of the classes that selections go on in. -/
structure TemplateContext where
  title : String
  imports : List Import
  projections : List Projection
  localNames : List (ClassRef × String)

def ModuleSource.context (source : ModuleSource) : TemplateContext where
  title := source.title
  imports := source.imports
  projections := source.projections
  localNames := (source.projections.flatMap Projection.referencedClasses).eraseDups.map fun reference =>
    (reference, source.localName reference)

/-- What the text of a template makes of what it is told of a module: the module's text, or a fault. -/
abbrev TemplateRule (ε : Type) := String → TemplateContext → Except ε String

/-- A template without markup says the same of every module. -/
def TemplateRule.plain {ε : Type} : TemplateRule ε := fun template _ =>
  .ok (String.ofList (Text.unifyLineEnds template.toList))

/-- The text of a module: what the template for modules makes of it, if there is one, or the module as it is
declared. -/
def ModuleSource.written {ε : Type} (templates : Files) (fill : TemplateRule ε) (source : ModuleSource) :
    Except ε String :=
  match templates.lookup moduleTemplate with
  | some template => fill template source.context
  | none => .ok source.text

/-- The files of modules. Each is written once its classes are known to be new in its package, before the next
is looked at. `before` are the modules in front. -/
def moduleFiles {ε : Type} (templates : Files) (fill : TemplateRule ε) (before : List ModuleSource) :
    List ModuleSource → Except (RenderError ε) Files
  | [] => .ok []
  | source :: rest => do
    (checkUnique before [source]).mapError .widen
    let text ← (source.written templates fill).mapError .template
    return (source.path, text) :: (← moduleFiles templates fill (before ++ [source]) rest)

/-- A dotted name and the dotted names that it continues. -/
def packagesTo (package : String) : List String :=
  let parts := Text.pieces '.' package
  (List.range parts.length).map fun index => ".".intercalate (parts.take (index + 1))

/-- The lines that import the classes of a module into its package. -/
def exportLines (source : ModuleSource) : List String :=
  ["from ." ++ source.moduleName ++ " import ("]
    ++ source.classNames.map (fun name => "    " ++ name ++ ",") ++ [")"]

/-- The lines of the file that makes a package of a directory. -/
def packageLines (package : String) (sources : List ModuleSource) : List String :=
  let modules := sources.filter fun source => source.package == package
  ["\"\"\"Generated GraphQL client package.\"\"\"", ""]
    ++ (if modules.isEmpty then []
      else
        modules.flatMap exportLines ++ ["", "__all__ = ["]
          ++ (exportedNames package sources).map (fun name => "    \"" ++ name ++ "\",")
          ++ ["]", ""])

def packageFile (sources : List ModuleSource) (package : String) : String × String :=
  (packagePath package ++ "/__init__.py", "\n".intercalate (packageLines package sources))

/-- The files of modules together with those of all packages on the way to them, in the order of their paths. -/
def arrange (modules : Files) (sources : List ModuleSource) : Files :=
  let packages := (sources.flatMap fun source => packagesTo source.package).eraseDups
  (modules ++ packages.map (packageFile sources)).mergeSort fun a b => decide (a.1 ≤ b.1)

/-- All files of the given modules as they are declared. -/
def layOut (sources : List ModuleSource) : Files := arrange (sources.map ModuleSource.file) sources

/-- A text with a header in front: the header without the line ends behind it, and a blank line. -/
def withHeader (text header : String) : String :=
  let kept := (header.toList.reverse.dropWhile fun c => c == '\n').reverse
  String.ofList kept ++ "\n\n" ++ text

/-- A text with headers put in front one after the other, so the last one comes first. -/
def withHeaders (headers : List String) (text : String) : String := headers.foldl withHeader text

/-- A file with its headers, provided it is a module. -/
def finish {ε : Type} (headers : List String) (file : String × String) :
    Except (RenderError ε) (String × String) :=
  let text := withHeaders headers file.2
  match readCode text with
  | .ok _ => .ok (file.1, text)
  | .error .nullCharacter => .error .nullCharacter
  | .error .malformed => .error (.malformed file.1)
  | .error .unreadable => .error .unreadable
  | .error .tooDeep => .error .tooDeep

/-- The files that an API is written as. What is wrong with the modules is found first, then the first fault of
the files in the order of paths. `fill` says what templates make of modules; templates that nothing else is said
of are taken to have no markup. -/
def render (settings : Settings) (headers : List String) (templates : Files) (api : Api) (ε : Type := Empty)
    (fill : TemplateRule ε := .plain) : Except (RenderError ε) Files := do
  let sources := moduleSources api settings
  let modules ← moduleFiles templates fill [] sources
  (arrange modules sources).mapM (finish headers)

end SelectionGen.Target

/-! Writing the files of an API below a directory. Nothing is written before every file is complete and
checked, so a fault of the files leaves the tree as it was. -/
namespace SelectionGen.Target

open SelectionGen.Files (Tree FileError)

/-- Why files are not all written. -/
inductive OutputError (ε : Type := Empty)
  | files (error : RenderError ε)
  | writing (error : FileError)
deriving DecidableEq, Repr

/-- The paths of the files written, or why not all were, and the tree as it is then. -/
structure Output (ε : Type) where
  outcome : Except ε (List String)
  tree : Tree

/-- Saves files one after the other. They lie below the directory that `directory` is the absolute path
of; `base` is how that directory is written where paths are shown. -/
def saveAll (base directory : String) : Files → Tree → Output FileError
  | [], tree => ⟨.ok [], tree⟩
  | (path, text) :: rest, tree =>
    match tree.save (Files.join directory path) text.toUTF8 with
    | .error error => ⟨.error error, tree⟩
    | .ok tree =>
      let behind := saveAll base directory rest tree
      { behind with outcome := behind.outcome.map (Files.join base path :: ·) }

/-- Writes the files of an API. -/
def write (settings : Settings) (headers : List String) (templates : Files) (api : Api)
    (base directory : String) (tree : Tree) (ε : Type := Empty) (fill : TemplateRule ε := .plain) :
    Output (OutputError ε) :=
  match render settings headers templates api ε fill with
  | .error error => ⟨.error (.files error), tree⟩
  | .ok files =>
    let saved := saveAll base directory files tree
    ⟨saved.outcome.mapError .writing, saved.tree⟩

end SelectionGen.Target
