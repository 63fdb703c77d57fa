import SelectionGen.Projection.Basic
import SelectionGen.Text.Printable
import SelectionGen.Text.Split
import SelectionGen.Text.LetterCase

/-! Modules of generated code, as declarations and as text. A module imports what its classes use and
then defines one class for each projection. A class of another module that shares its name with one of
this module is imported under another name, made from the last part of its package. -/
namespace SelectionGen.Target

/-! Documentation strings. Between triple quotes a text is written so that nothing in it ends the literal
early: backslashes are doubled, three quotes in a row are escaped, and a text that ends with a quote
gets a blank behind it. -/

namespace Docstring

/-- The text with its backslashes doubled and its triple quotes escaped. -/
def escapeQuotes : List Char → List Char
  | [] => []
  | '"' :: '"' :: '"' :: rest => '\\' :: '"' :: '\\' :: '"' :: '\\' :: '"' :: escapeQuotes rest
  | '\\' :: rest => '\\' :: '\\' :: escapeQuotes rest
  | c :: rest => c :: escapeQuotes rest

/-- How a text is written between triple quotes. -/
def escape (text : List Char) : List Char :=
  if text.getLast? = some '"' then escapeQuotes text ++ [' '] else escapeQuotes text

end Docstring

/-- The text between the quotes of a documentation string. -/
def docstringText (text : String) : String := String.ofList (Docstring.escape text.toList)

/-! What a module imports and defines. -/

/-- An imported name, possibly bound to another one. -/
structure ImportEntry where
  name : String
  alias? : Option String := none
deriving DecidableEq, Repr

/-- The name that an import binds. -/
def ImportEntry.bound (entry : ImportEntry) : String := entry.alias?.getD entry.name

def ImportEntry.render (entry : ImportEntry) : String :=
  match entry.alias? with
  | none => entry.name
  | some bound => entry.name ++ " as " ++ bound

/-- What is imported from one module. -/
structure Import where
  source : String
  entries : List ImportEntry
deriving DecidableEq, Repr

/-- What a method does: record a leaf, or go on in an instance of a class that the module knows under
the given name. -/
inductive MethodBody
  | leaf
  | composite (localClass : String)
deriving DecidableEq, Repr

structure Method where
  name : String
  fieldName : String
  body : MethodBody
  description : Option String
deriving DecidableEq, Repr

structure ClassDeclaration where
  name : String
  base : String
  decorators : List String
  description : Option String
  methods : List Method
deriving DecidableEq, Repr

structure Module where
  title : String
  imports : List Import
  classes : List ClassDeclaration
deriving DecidableEq, Repr

/-! From projections to declarations. -/

/-- The module of a package that holds its projections. -/
def projectionsModule : String := "projections"

/-- The module of a package that holds its entry points. -/
def queriesModule : String := "queries"

/-- A module by package and name, and the projections it defines. -/
structure ModuleSource where
  package : String
  moduleName : String
  title : String
  projections : List Projection

namespace ModuleSource

def qualifiedName (source : ModuleSource) : String := source.package ++ "." ++ source.moduleName

/-- The module that a class is imported from. -/
def moduleOf (reference : ClassRef) : String := reference.package ++ "." ++ projectionsModule

def definesName (source : ModuleSource) (name : String) : Bool :=
  source.projections.any fun projection => projection.name == name

/-- The last part of a package name. -/
def lastPart (package : String) : String := (Text.pieces '.' package).getLastD ""

/-- How the module gets at a class: `none` if it is defined here, an import otherwise. -/
def importOf? (source : ModuleSource) (reference : ClassRef) : Option ImportEntry :=
  if moduleOf reference = source.qualifiedName then none
  else if source.definesName reference.name then
    some ⟨reference.name,
      some (Text.capitalized (lastPart reference.package) ++ reference.name)⟩
  else some ⟨reference.name, none⟩

/-- The name that the module knows a class under. -/
def localName (source : ModuleSource) (reference : ClassRef) : String :=
  match source.importOf? reference with
  | some entry => entry.bound
  | none => reference.name

/-- Everything that is imported and from where, in the order of use: base classes and decorators of all
classes first, then the classes that selections go on in. -/
def importPairs (source : ModuleSource) : List (String × ImportEntry) :=
  (source.projections.flatMap fun projection =>
      (projection.baseClass :: projection.decorators).map fun reference =>
        (reference.package, ⟨reference.name, none⟩))
    ++ (source.projections.flatMap fun projection =>
      projection.referencedClasses.filterMap fun reference =>
        (source.importOf? reference).map fun entry => (moduleOf reference, entry))

/-- The imports by module, modules in the order of their names, no entry twice. -/
def imports (source : ModuleSource) : List Import :=
  ((source.importPairs.map Prod.fst).eraseDups.mergeSort fun a b => decide (a ≤ b)).map fun name =>
    ⟨name, ((source.importPairs.filter fun pair => pair.1 == name).map Prod.snd).eraseDups⟩

/-- An empty text documents nothing. -/
def documentation (description : Option String) : Option String :=
  description.filter fun text => text ≠ ""

def method (source : ModuleSource) (accessor : Accessor) : Method where
  name := accessor.name
  fieldName := accessor.fieldName
  body := match accessor.selector with
    | .leaf => .leaf
    | .composite sub => .composite (source.localName sub)
  description := documentation accessor.description

def classDeclaration (source : ModuleSource) (projection : Projection) : ClassDeclaration where
  name := projection.name
  base := projection.baseClass.name
  decorators := projection.decorators.map ClassRef.name
  description := documentation projection.description
  methods := projection.accessors.map source.method

def toModule (source : ModuleSource) : Module where
  title := source.title
  imports := source.imports
  classes := source.projections.map source.classDeclaration

end ModuleSource

/-! From declarations to text. -/

/-- Three double quotes. -/
def tripleQuote : String := "\"\"\""

/-- A documentation string on lines of its own, indented by the given blanks. -/
def renderDocumentation (indentation : String) : Option String → String
  | none => ""
  | some text => indentation ++ tripleQuote ++ docstringText text ++ tripleQuote ++ "\n"

def Import.render (item : Import) : String :=
  "from " ++ item.source ++ " import " ++ ", ".intercalate (item.entries.map ImportEntry.render) ++ "\n"

/-- A method of a class. A leaf gives back the object itself, a composite the new object below it,
which is recorded before the callback sees it. -/
def Method.render (owner : String) (method : Method) : String :=
  let key := Text.quoted method.fieldName
  match method.body with
  | .leaf =>
    "    def " ++ method.name ++ "(self) -> \"" ++ owner ++ "\":\n"
      ++ renderDocumentation "        " method.description
      ++ "        self.fields[" ++ key ++ "] = None\n"
      ++ "        return self\n"
  | .composite localClass =>
    "    def " ++ method.name ++ "(self, init_block: Callable[[\"" ++ localClass ++ "\"], Any]) -> \""
      ++ localClass ++ "\":\n"
      ++ renderDocumentation "        " method.description
      ++ "        projection = " ++ localClass ++ "()\n"
      ++ "        self.fields[" ++ key ++ "] = projection\n"
      ++ "        init_block(projection)\n"
      ++ "        return projection\n"

/-- A class that documents nothing and has no methods says so. -/
def ClassDeclaration.renderOpening (declaration : ClassDeclaration) : String :=
  match declaration.description, declaration.methods with
  | none, [] => "    pass\n"
  | description, _ => renderDocumentation "    " description

/-- A class up to its first method, behind two blank lines. A blank line stands in front of the first
method if there is documentation. -/
def ClassDeclaration.renderHead (declaration : ClassDeclaration) : String :=
  "\n\n"
    ++ "".intercalate (declaration.decorators.map fun name => "@" ++ name ++ "\n")
    ++ "class " ++ declaration.name ++ "(" ++ declaration.base ++ "):\n"
    ++ declaration.renderOpening
    ++ (if declaration.description.isSome && !declaration.methods.isEmpty then "\n" else "")

/-- A class with blank lines between its methods. -/
def ClassDeclaration.render (declaration : ClassDeclaration) : String :=
  declaration.renderHead
    ++ "\n".intercalate (declaration.methods.map (Method.render declaration.name))

/-- A module up to its first class. -/
def Module.renderHead (written : Module) : String :=
  tripleQuote ++ written.title ++ "\n\nAuto-generated by gql-projgen - do not edit.\n" ++ tripleQuote
    ++ "\n\nfrom typing import Any, Callable\n\n"
    ++ "".intercalate (written.imports.map Import.render)

def Module.render (written : Module) : String :=
  written.renderHead ++ "".intercalate (written.classes.map ClassDeclaration.render)

end SelectionGen.Target
