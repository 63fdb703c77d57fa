import SelectionGen.Target.Lexer
import SelectionGen.Target.Module

/-! Reading the declarations of a module back from its text. What documents something is one literal, whatever its
text looks like. Beside it only what declarations are written with is read, and nothing may be left over. -/
namespace SelectionGen.Target

namespace Declared

/-- Takes what it reads off the front of a sequence of tokens. -/
abbrev Reader (α : Type) := List TokenKind → Option (α × List TokenKind)

/-- What stands behind exactly these tokens. -/
def behind? (front kinds : List TokenKind) : Option (List TokenKind) :=
  if front.isPrefixOf kinds then some (kinds.drop front.length) else none

def name : Reader String
  | .name text :: kinds => some (text, kinds)
  | _ => none

def literal : Reader String
  | .literal (.text value) :: kinds => some (value, kinds)
  | _ => none

/-- A literal on a line of its own documents what it stands in. -/
def documentation : List TokenKind → Option String × List TokenKind
  | .literal (.text value) :: .lineEnd :: kinds => (some value, kinds)
  | kinds => (none, kinds)

def repeatedWithin (read : Reader α) : (within : List TokenKind) → List TokenKind → List α × List TokenKind
  | [], kinds => ([], kinds)
  | _ :: within, kinds =>
    match read kinds with
    | some (found, kinds) =>
      let (others, kinds) := repeatedWithin read within kinds
      (found :: others, kinds)
    | none => ([], kinds)

/-- As much as there is of what a reader takes. Each time takes a token, so the tokens bound how often that is. -/
def repeatedly (read : Reader α) (kinds : List TokenKind) : List α × List TokenKind :=
  repeatedWithin read kinds kinds

/-- What stands behind a mark. -/
def marked (mark : String) (read : Reader α) : Reader α := fun kinds => do read (← behind? [.mark mark] kinds)

/-- Names with dots between them. -/
def dottedName : Reader String := fun kinds => do
  let (first, kinds) ← name kinds
  let (others, kinds) := repeatedly (marked "." name) kinds
  return (".".intercalate (first :: others), kinds)

def importEntry : Reader ImportEntry := fun kinds => do
  let (found, kinds) ← name kinds
  match behind? [.name "as"] kinds with
  | some kinds => do
    let (bound, kinds) ← name kinds
    return (⟨found, some bound⟩, kinds)
  | none => return (⟨found, none⟩, kinds)

def importLine : Reader Import := fun kinds => do
  let (source, kinds) ← dottedName (← behind? [.name "from"] kinds)
  let (first, kinds) ← importEntry (← behind? [.name "import"] kinds)
  let (others, kinds) := repeatedly (marked "," importEntry) kinds
  return (⟨source, first :: others⟩, ← behind? [.lineEnd] kinds)

/-- How a leaf method goes on behind its name, up to its documentation. It gives back an object of its own class. -/
def leafSignature (owner : String) : List TokenKind :=
  [.mark "(", .name "self", .mark ")", .mark "->", .literal (.text owner), .mark ":", .lineEnd, .indent]

/-- How a composite method goes on behind its name, up to the class that it goes on in. -/
def compositeOpening : List TokenKind :=
  [.mark "(", .name "self", .mark ",", .name "init_block", .mark ":", .name "Callable", .mark "[", .mark "["]

/-- How a composite method goes on behind its class, up to its documentation. -/
def compositeSignature (localClass : String) : List TokenKind :=
  [.mark "]", .mark ",", .name "Any", .mark "]", .mark ")", .mark "->", .literal (.text localClass), .mark ":",
    .lineEnd, .indent]

def creation (localClass : String) : List TokenKind :=
  [.name "projection", .mark "=", .name localClass, .mark "(", .mark ")", .lineEnd]

/-- What stands in front of the field that a method records. -/
def recording : List TokenKind := [.name "self", .mark ".", .name "fields", .mark "["]

def leafEnding : List TokenKind :=
  [.mark "]", .mark "=", .name "None", .lineEnd, .name "return", .name "self", .lineEnd, .dedent]

def compositeEnding : List TokenKind :=
  [.mark "]", .mark "=", .name "projection", .lineEnd, .name "init_block", .mark "(", .name "projection", .mark ")",
    .lineEnd, .name "return", .name "projection", .lineEnd, .dedent]

/-- A method of a class, which is a leaf if it takes nothing but the object. -/
def method (owner : String) : Reader Method := fun kinds => do
  let (methodName, kinds) ← name (← behind? [.name "def"] kinds)
  match behind? (leafSignature owner) kinds with
  | some kinds => do
    let (description, kinds) := documentation kinds
    let (fieldName, kinds) ← literal (← behind? recording kinds)
    return (⟨methodName, fieldName, .leaf, description⟩, ← behind? leafEnding kinds)
  | none => do
    let (localClass, kinds) ← literal (← behind? compositeOpening kinds)
    let (description, kinds) := documentation (← behind? (compositeSignature localClass) kinds)
    let (fieldName, kinds) ← literal (← behind? (creation localClass ++ recording) kinds)
    return (⟨methodName, fieldName, .composite localClass, description⟩, ← behind? compositeEnding kinds)

def decorator : Reader String := fun kinds => do
  let (found, kinds) ← name (← behind? [.mark "@"] kinds)
  return (found, ← behind? [.lineEnd] kinds)

/-- A class, which says so if it has neither documentation nor methods. -/
def declaration : Reader ClassDeclaration := fun kinds => do
  let (decorators, kinds) := repeatedly decorator kinds
  let (className, kinds) ← name (← behind? [.name "class"] kinds)
  let (base, kinds) ← name (← behind? [.mark "("] kinds)
  let (description, kinds) := documentation (← behind? [.mark ")", .mark ":", .lineEnd, .indent] kinds)
  let (methods, kinds) := repeatedly (method className) kinds
  let ending := if description.isNone && methods.isEmpty then [.name "pass", .lineEnd, .dedent] else [.dedent]
  return (⟨className, base, decorators, description, methods⟩, ← behind? ending kinds)

/-- Documentation, imports and classes, in this order and nothing else. -/
def declarations (kinds : List TokenKind) : Option Module := do
  let (title, kinds) ← literal kinds
  let (imports, kinds) := repeatedly importLine (← behind? [.lineEnd] kinds)
  let (classes, kinds) := repeatedly declaration kinds
  if kinds.isEmpty then return ⟨title, imports, classes⟩ else none

end Declared

/-- The declarations that a text is, all of it. A null character makes it no module. -/
def Module.ofText? (text : String) : Option Module :=
  if text.toList.contains '\x00' then none
  else (Token.ofText text.toList).bind fun tokens => Declared.declarations (tokens.map Token.kind)

end SelectionGen.Target
