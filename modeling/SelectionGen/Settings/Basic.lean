import SelectionGen.Files.Path
import SelectionGen.Sdl.Name

/-! What one run is asked to do: where the schema comes from, which packages hold the generated code, and
which fields are wanted. -/
namespace SelectionGen

namespace Settings

/-! Names of packages: parts with dots between them, each part spelled like a name of the schema language.
One line end behind the last part is let through as well. -/

/-- The text without the line end that may stand behind it. -/
def withoutFinalLineEnd (text : List Char) : List Char :=
  if text.getLast? = some '\n' then text.dropLast else text

/-- Names with single dots between them. -/
def isDottedName (text : List Char) : Bool :=
  (Text.splitAt '.' text).all Sdl.isName

def acceptsPackage (text : List Char) : Bool :=
  isDottedName (withoutFinalLineEnd text)

/-- A package name that was accepted. -/
structure PackageName where
  text : String
  accepted : acceptsPackage text.toList = true
deriving DecidableEq

namespace PackageName

def ofString? (text : String) : Option PackageName :=
  if accepted : acceptsPackage text.toList = true then some ⟨text, accepted⟩ else none

end PackageName

end Settings

/-- The settings of a run. The entry of a type in `includeFields` lists all its fields that are wanted; a
type without an entry is not restricted. -/
structure Settings where
  schemas : List String := []
  schemaPaths : List Files.Path := []
  packageName : Settings.PackageName := ⟨"generated", by decide +kernel⟩
  clientPart : Settings.PackageName := ⟨"client", by decide +kernel⟩
  queriesPart : Settings.PackageName := ⟨"queries", by decide +kernel⟩
  includeFields : List (String × List String) := []
  generatesClient : Bool := true

namespace Settings

/-- The package of the projections that queries are nested from. -/
def clientPackage (settings : Settings) : String :=
  settings.packageName.text ++ "." ++ settings.clientPart.text

/-- The package of the entry points. -/
def queriesPackage (settings : Settings) : String :=
  settings.packageName.text ++ "." ++ settings.queriesPart.text

/-- The wanted fields of a type, unless it is not restricted. -/
def allowed? (settings : Settings) (typeName : String) : Option (List String) :=
  settings.includeFields.lookup typeName

end Settings

end SelectionGen
