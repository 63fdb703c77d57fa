import SelectionGen.Selection.Store
import SelectionGen.Target.Literal
import SelectionGen.Target.NameUse
import SelectionGen.Target.Package

/-! Generated classes as code sees them. A class has its members by the names that reach them from outside:
a member whose name begins with two underscores and does not end with two is reached by a name with the
class in front of it. A method finds the class it goes on in through the names its module binds; a
class defined there hides an import, and of two imports the later one counts. -/
namespace SelectionGen

open Target

/-- A module together with the package it is in and the qualified name it is imported by. -/
structure LoadedModule where
  package : String
  moduleName : String
  declarations : Target.Module

namespace LoadedModule

def name (found : LoadedModule) : String := found.package ++ "." ++ found.moduleName

end LoadedModule

/-- The modules of a run as declarations, and the texts of all files. -/
structure Program where
  modules : List LoadedModule
  files : Target.Files

namespace Program

def ofApi (settings : Settings) (files : Target.Files) (api : Api) : Program :=
  { modules := (moduleSources api settings).map fun source =>
      ⟨source.package, source.moduleName, source.toModule⟩
    files }

def module? (program : Program) (name : String) : Option Target.Module :=
  (program.modules.find? fun loaded => loaded.name == name).map LoadedModule.declarations

def class? (program : Program) (key : ClassKey) : Option ClassDeclaration := do
  let found ← program.module? key.moduleName
  found.classes.reverse.find? fun declaration => declaration.name == key.name

/-- The class that a name means in a module. -/
def binding? (program : Program) (moduleName name : String) : Option ClassKey := do
  let found ← program.module? moduleName
  if found.classes.any fun declaration => declaration.name == name then
    return ⟨moduleName, name⟩
  else
    let entries := found.imports.flatMap fun item =>
      item.entries.map fun entry => (entry.bound, (⟨item.source, entry.name⟩ : ClassKey))
    entries.reverse.lookup name

/-- The method that a name reaches on objects of a class. -/
def method? (declaration : ClassDeclaration) (name : String) : Option Method :=
  declaration.methods.reverse.find? fun method => outerName declaration.name method.name == name

/-- The documentation of a class as it reads once the literal in the code has been read. -/
def documentation? (declaration : ClassDeclaration) : Option String := do
  let literal := tripleQuote ++ docstringText (← declaration.description) ++ tripleQuote
  let (text, _) ← Literal.read {} (Text.unifyLineEnds literal.toList)
  return String.ofList text

end Program

end SelectionGen
