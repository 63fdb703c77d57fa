import SelectionGen.Text.LetterCase

/-! Names in the generated code. A field is generated under its own name unless that name is reserved or
taken, and then with as few underscores behind it as make it free. -/
namespace SelectionGen.Projection

/-- The words of the target language that cannot name anything. -/
def keywords : List String :=
  ["False", "None", "True", "and", "as", "assert", "async", "await", "break", "class", "continue",
    "def", "del", "elif", "else", "except", "finally", "for", "from", "global", "if", "import", "in",
    "is", "lambda", "nonlocal", "not", "or", "pass", "raise", "return", "try", "while", "with",
    "yield"]

/-- The members that every generated class inherits and its accessors use. -/
def inheritedMembers : List String := ["fields", "serialize"]

/-- The names that signatures of accessors are evaluated with. -/
def signatureNames : List String := ["Any", "Callable"]

/-- The names no accessor may have. None of them ends with an underscore. -/
def reservedWords : List String := keywords ++ inheritedMembers ++ signatureNames

/-- The name itself, or with an underscore behind it if it is reserved. -/
def sanitize (name : String) : String :=
  if reservedWords.contains name then name ++ "_" else name

/-- The class generated for a type. It ends in `Projection`, so it is no reserved word. -/
def className (typeName : String) : String := Text.capitalized typeName ++ "Projection"

/-- A name with underscores behind it. -/
def padded (name : String) (count : Nat) : String :=
  name ++ String.ofList (List.replicate count '_')

/-- The fewest underscores that free a name. One more candidate than there are names taken is enough. -/
def freePadding (taken : List String) (name : String) : Nat :=
  ((List.range (taken.length + 1)).find? fun count => !taken.contains (padded name count)).getD 0

/-- The name of the accessor of a field in a class where some names are taken. -/
def accessorName (taken : List String) (fieldName : String) : String :=
  padded (sanitize fieldName) (freePadding taken (sanitize fieldName))

end SelectionGen.Projection
