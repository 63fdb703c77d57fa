import SelectionGen.Number.FloatingPoint
import SelectionGen.Settings.Basic
import SelectionGen.Settings.Json
import SelectionGen.Text.Printable

/-! Checking settings that were given as data. Every setting is checked, in a fixed order, then unknown
ones are refused in the order given, so all faults are reported at once. Nothing but text counts as
text; a truth value may also be written as a number or a word. -/
namespace SelectionGen.Settings

/-- A step on the way to a fault. -/
inductive Key
  | name (name : String)
  | index (index : Nat)
deriving DecidableEq, Repr

/-- Whether settings came as values or as JSON text, which changes some of the words. -/
inductive Form
  | values
  | text
deriving DecidableEq, Repr

inductive FaultCause
  | notText
  | notList
  | notMapping
  | notPath
  | notLanguage
  | unclearTruth
  | notTruth
  | unknownSetting
  | badPackage (name : String)
  | notObject
  | malformed
deriving DecidableEq, Repr

/-- A fault and where it is. -/
structure SettingsFault where
  location : List Key
  cause : FaultCause
deriving DecidableEq, Repr

namespace FaultCause

/-- The kind of a fault, one word for each. -/
def kind : FaultCause → String
  | notText => "string_type"
  | notList => "list_type"
  | notMapping => "dict_type"
  | notPath => "path_type"
  | notLanguage => "enum"
  | unclearTruth => "bool_parsing"
  | notTruth => "bool_type"
  | unknownSetting => "extra_forbidden"
  | badPackage _ => "value_error"
  | notObject => "model_type"
  | malformed => "json_invalid"

/-- The words for a fault. How a malformed text is malformed is not said. -/
def message? (form : Form) : FaultCause → Option String
  | notText => some "Input should be a valid string"
  | notList =>
    match form with
    | .values => some "Input should be a valid list"
    | .text => some "Input should be a valid array"
  | notMapping =>
    match form with
    | .values => some "Input should be a valid dictionary"
    | .text => some "Input should be an object"
  | notPath => some "Input is not a valid path for <class 'pathlib.Path'>"
  | notLanguage => some "Input should be 'python'"
  | unclearTruth => some "Input should be a valid boolean, unable to interpret input"
  | notTruth => some "Input should be a valid boolean"
  | unknownSetting => some "Extra inputs are not permitted"
  | badPackage name =>
    some ("Value error, Invalid Python package name: " ++ Text.quoted name)
  | notObject => some "Input should be an object"
  | malformed => none

end FaultCause

/-- A value, or everything that is wrong with it. -/
abbrev Checked := Except (List SettingsFault)

/-- Everything that is wrong with a value; nothing if it is fine. -/
def faultsOf : Checked α → List SettingsFault
  | .ok _ => []
  | .error faults => faults

def refuse (location : List Key) (cause : FaultCause) : Checked α :=
  .error [⟨location, cause⟩]

def checkText (location : List Key) : Json → Checked String
  | .string text => .ok text
  | _ => refuse location .notText

def checkPath (location : List Key) : Json → Checked Files.Path
  | .string text => .ok (Files.Path.ofString text)
  | _ => refuse location .notPath

/-- Checks all items, collecting the faults of all. -/
def checkItems (location : List Key) (check : List Key → Json → Checked α) :
    Nat → List Json → Checked (List α)
  | _, [] => .ok []
  | index, item :: rest =>
    match check (location ++ [.index index]) item, checkItems location check (index + 1) rest with
    | .ok first, .ok others => .ok (first :: others)
    | first, others => .error (faultsOf first ++ faultsOf others)

def checkList (check : List Key → Json → Checked α) (location : List Key) :
    Json → Checked (List α)
  | .array items => checkItems location check 0 items
  | _ => refuse location .notList

/-- Checks all members, also those whose name comes again, collecting the faults of all. -/
def checkMembers (location : List Key) (check : List Key → Json → Checked α) :
    List (String × Json) → Checked (List (String × α))
  | [] => .ok []
  | (name, item) :: rest =>
    match check (location ++ [.name name]) item, checkMembers location check rest with
    | .ok first, .ok others => .ok ((name, first) :: others)
    | first, others => .error (faultsOf first ++ faultsOf others)

/-- Members of which the last of a name counts, in the place of the first. -/
def checkMapping (check : List Key → Json → Checked α) (location : List Key) :
    Json → Checked (List (String × α))
  | .object members => (checkMembers location check members).map Json.lastOfEach
  | _ => refuse location .notMapping

def checkPackage (location : List Key) (item : Json) : Checked PackageName := do
  let text ← checkText location item
  match PackageName.ofString? text with
  | some name => .ok name
  | none => refuse location (.badPackage text)

/-- There is one language to generate. -/
def checkLanguage (location : List Key) : Json → Checked Unit
  | .string "python" => .ok ()
  | _ => refuse location .notLanguage

def falseWords : List String := ["0", "off", "f", "false", "n", "no"]

def trueWords : List String := ["1", "on", "t", "true", "y", "yes"]

/-- The least number that does not fit 64 bits with a sign. -/
def wordLimit : Int := 0x8000000000000000

/-- No truth values but the numbers zero and one. -/
def checkTruthNumber (location : List Key) (value : Int) : Checked Bool :=
  if value = 0 then .ok false
  else if value = 1 then .ok true
  else refuse location .unclearTruth

/-- Whole numbers past 64 bits are no truth values at all; others are at least numbers. -/
def checkTruthInteger (location : List Key) (value : Int) : Checked Bool :=
  if -wordLimit ≤ value ∧ value < wordLimit then checkTruthNumber location value
  else refuse location .notTruth

/-- A decimal number counts as the nearest floating-point number, which has to be whole and, whatever its
sign, below the limit. -/
def checkTruthDecimal (location : List Key) (mantissa exponent : Int) : Checked Bool :=
  match (Number.FloatingPoint.ofDecimal? mantissa.natAbs exponent).bind
      Number.FloatingPoint.whole? with
  | some size =>
    if (size : Int) < wordLimit then checkTruthNumber location (mantissa.sign * size)
    else refuse location .notTruth
  | none => refuse location .notTruth

def checkTruth (location : List Key) : Json → Checked Bool
  | .bool value => .ok value
  | .number (.integer value) => checkTruthInteger location value
  | .number (.decimal mantissa exponent) => checkTruthDecimal location mantissa exponent
  | .string text =>
    let word := String.ofList (text.toList.map Char.toLower)
    if falseWords.contains word then .ok false
    else if trueWords.contains word then .ok true
    else refuse location .unclearTruth
  | _ => refuse location .notTruth

/-- The last member of the given name, checked; the given value if there is no such member. -/
def checkMember (members : List (String × Json)) (name : String) (absent : α)
    (check : List Key → Json → Checked α) : Checked α :=
  match members.reverse.lookup name with
  | some item => check [.name name] item
  | none => .ok absent

/-- The names of all settings. -/
def settingNames : List String :=
  ["schemas", "schema_paths", "package_name", "sub_package_name_client",
    "sub_package_name_queries", "include_fields", "language", "generate_client_api"]

/-- The faults of members that are no settings. -/
def unknownMembers (members : List (String × Json)) : List SettingsFault :=
  (members.filter fun (name, _) => !settingNames.contains name).map fun (name, _) =>
    ⟨[.name name], .unknownSetting⟩

/-- The settings that members give, with the usual values for those that are absent. -/
def ofMembers (members : List (String × Json)) : Checked Settings :=
  let usual : Settings := {}
  let schemas := checkMember members "schemas" usual.schemas (checkList checkText)
  let schemaPaths := checkMember members "schema_paths" usual.schemaPaths (checkList checkPath)
  let packageName := checkMember members "package_name" usual.packageName checkPackage
  let clientPart := checkMember members "sub_package_name_client" usual.clientPart checkPackage
  let queriesPart := checkMember members "sub_package_name_queries" usual.queriesPart checkPackage
  let includeFields := checkMember members "include_fields" usual.includeFields
    (checkMapping (checkList checkText))
  let language := checkMember members "language" () checkLanguage
  let generatesClient :=
    checkMember members "generate_client_api" usual.generatesClient checkTruth
  let faults := faultsOf schemas ++ faultsOf schemaPaths ++ faultsOf packageName
    ++ faultsOf clientPart ++ faultsOf queriesPart ++ faultsOf includeFields ++ faultsOf language
    ++ faultsOf generatesClient ++ unknownMembers members
  if faults.isEmpty then do
    return { schemas := ← schemas, schemaPaths := ← schemaPaths, packageName := ← packageName,
             clientPart := ← clientPart, queriesPart := ← queriesPart,
             includeFields := ← includeFields, generatesClient := ← generatesClient }
  else .error faults

/-- The settings that a value gives. -/
def ofJson : Json → Checked Settings
  | .object members => ofMembers members
  | _ => refuse [] .notObject

/-- The settings that a JSON text gives. -/
def ofText (text : String) : Checked Settings :=
  match Json.ofString? text with
  | some found => ofJson found
  | none => refuse [] .malformed

end SelectionGen.Settings
