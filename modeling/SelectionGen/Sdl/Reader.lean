import SelectionGen.Sdl.Document
import SelectionGen.Sdl.Lexer

/-! Reading documents. A reader looks at one token, at two behind a description or `extend`, and fails at
the first token that the grammar does not allow. Repetition is bounded by the number of tokens left, which
no sentence of the grammar exceeds. Lists, objects and selections may stand in each other only up to a
limit, so the room that is left for them is what nesting recurses on. -/
namespace SelectionGen.Sdl

/-- A reader takes tokens from the front of a stream and gives a result or a fault. -/
abbrev Reader := StateT TokenStream (Except SyntaxError)

namespace Reader

/-- The token looked at. -/
def current : Reader Token := do (← get).front

def fail (token : Token) (fault : SyntaxFault) : Reader α :=
  throw ⟨fault, token.offset⟩

/-- Fails because no alternative begins with this token. -/
def refuse (token : Token) : Reader α := fail token (.unexpected token.lexeme)

def unexpected : Reader α := do refuse (← current)

/-- How many lists, objects and selections may stand in each other. -/
def nestingLimit : Nat := 200

def tooDeep : Reader α := do fail (← current) .nestedTooDeep

/-- Goes to the next token, which has to be one: a fault of spelling there comes up now. -/
def advance : Reader Unit := do
  let behind := (← get).behind
  let _ ← behind.front
  set behind

/-- The token behind the one looked at. -/
def second : Reader Token := do (← get).behind.front

/-- More than the number of steps that any reader can still take. -/
def bound : Reader Nat := do return (← get).tokens.length + 1

def name : Reader Name := do
  let token ← current
  match token.lexeme with
  | .name found => do advance; return found
  | _ => fail token (.expected .name token.lexeme)

def expectMark (mark : Mark) : Reader Unit := do
  let token ← current
  if token.lexeme = .mark mark then advance else fail token (.expected (.mark mark) token.lexeme)

def atMark (mark : Mark) : Reader Bool := do
  return (← current).lexeme = .mark mark

/-- Takes the mark if it is there. -/
def takeMark (mark : Mark) : Reader Bool := do
  if ← atMark mark then do advance; return true else return false

def isKeyword (word : String) : Lexeme → Bool
  | .name found => found.text == word
  | _ => false

def expectKeyword (word : String) : Reader Unit := do
  let token ← current
  if isKeyword word token.lexeme then advance
  else fail token (.expected (.keyword word) token.lexeme)

/-- Takes the keyword if it is there. -/
def takeKeyword (word : String) : Reader Bool := do
  if isKeyword word (← current).lexeme then do advance; return true else return false

def expectEnd : Reader Unit := do
  let token ← current
  if token.lexeme = .endOfFile then return else fail token (.expected .endOfFile token.lexeme)

/-- Reads items until the closing mark, for at most the given number of items. -/
def itemsUntil (close : Mark) (item : Reader α) : Nat → Reader (List α)
  | 0 => return []
  | steps + 1 => do
    if ← takeMark close then return []
    let first ← item
    return first :: (← itemsUntil close item steps)

/-- Any number of items between two marks. -/
def between (opening close : Mark) (item : Reader α) : Reader (List α) := do
  expectMark opening
  itemsUntil close item (← bound)

/-- At least one item between two marks. -/
def someBetween (opening close : Mark) (item : Reader α) : Reader (List α) := do
  expectMark opening
  let first ← item
  return first :: (← itemsUntil close item (← bound))

/-- At least one item between two marks, or nothing at all. -/
def optionalBetween (opening close : Mark) (item : Reader α) : Reader (List α) := do
  if ← atMark opening then someBetween opening close item else return []

/-- Items with the mark between them, for at most the given number of items. -/
def itemsSeparated (separator : Mark) (item : Reader α) : Nat → Reader (List α)
  | 0 => return []
  | steps + 1 => do
    let first ← item
    if ← takeMark separator then return first :: (← itemsSeparated separator item steps)
    else return [first]

/-- At least one item; the mark stands between items and may stand before the first. -/
def separated (separator : Mark) (item : Reader α) : Reader (List α) := do
  let _ ← takeMark separator
  itemsSeparated separator item (← bound)

/-- A description is a string of either form in front of what it describes. -/
def description : Reader (Option String) := do
  match (← current).lexeme with
  | .string value | .blockString value => do advance; return some value
  | _ => return none

/-! Values, arguments and directives are checked and dropped; only the names of directives are kept. -/

/-- A variable, which has no place where the value must be constant. -/
def variableUse (constant : Bool) : Reader Unit := do
  let token ← current
  expectMark .dollar
  if constant then
    match (← current).lexeme with
    | .name found => fail token (.variableInConstant found)
    | _ => refuse token
  else
    let _ ← name

/-- A value, given what to do before it is known to hold others, and how to read those. -/
def valueOver (constant : Bool) (enter inner : Reader Unit) : Reader Unit := do
  match (← current).lexeme with
  | .mark .bracketOpen =>
    enter
    let _ ← between .bracketOpen .bracketClose inner
  | .mark .braceOpen =>
    enter
    let _ ← between .braceOpen .braceClose (do
      let _ ← name
      expectMark .colon
      inner)
  | .mark .dollar => variableUse constant
  | .int _ | .float _ | .string _ | .blockString _ | .name _ => advance
  | _ => unexpected

/-- A value with room for so many lists and objects in each other. -/
def value (constant : Bool) : Nat → Reader Unit
  | 0 => valueOver constant tooDeep (pure ())
  | room + 1 => valueOver constant (pure ()) (value constant room)

def argument (constant : Bool) (room : Nat) : Reader Unit := do
  let _ ← name
  expectMark .colon
  value constant room

def arguments (constant : Bool) (room : Nat) : Reader Unit := do
  let _ ← optionalBetween .parenOpen .parenClose (argument constant room)

/-- Directives, at most the given number. -/
def directivesUpTo (constant : Bool) (room : Nat) : Nat → Reader (List Name)
  | 0 => return []
  | steps + 1 => do
    if ← takeMark .atSign then
      let found ← name
      arguments constant room
      return found :: (← directivesUpTo constant room steps)
    else return []

def directives (constant : Bool) (room : Nat) : Reader (List Name) := do
  if ← atMark .atSign then directivesUpTo constant room (← bound) else return []

/-- Directives on a definition or a part of one. -/
def declaredDirectives : Reader (List Name) := directives true nestingLimit

/-- The value that an argument or a variable has unless another is given. -/
def initialValue : Reader Unit := do
  if ← takeMark .equals then value true nestingLimit

/-! Types and the parts of type definitions. -/

/-- A type reference in fewer lists than the given number. -/
def typeRefUpTo : Nat → Reader TypeRef
  | 0 => tooDeep
  | room + 1 => do
    let inner ← do
      if ← takeMark .bracketOpen then
        let item ← typeRefUpTo room
        expectMark .bracketClose
        pure (item.wrap .list)
      else
        pure ⟨[], ← name⟩
    if ← takeMark .bang then return inner.wrap .nonNull else return inner

def typeRef : Reader TypeRef := typeRefUpTo (nestingLimit + 1)

/-- The declaration of an argument or of a field of an input object; no arguments of its own. -/
def inputField : Reader Field := do
  let description ← description
  let name ← name
  expectMark .colon
  let type ← typeRef
  initialValue
  let directives ← declaredDirectives
  return { name, type, directives, description }

/-- A field of an object or interface. -/
def outputField : Reader Field := do
  let description ← description
  let name ← name
  let arguments ← optionalBetween .parenOpen .parenClose inputField
  expectMark .colon
  let type ← typeRef
  let directives ← declaredDirectives
  return { name, type, arguments := arguments.map Field.name, directives, description }

/-- The interfaces that a type implements, with `&` between them. -/
def interfaces : Reader (List Name) := do
  if ← takeKeyword "implements" then separated .ampersand name else return []

def members : Reader (List Name) := do
  if ← takeMark .equals then separated .pipe name else return []

/-- A member of an enumeration may have any name but those of the constants. -/
def enumMember : Reader Unit := do
  let _ ← description
  let token ← current
  if token.lexeme.content? ∈ [some "true", some "false", some "null"] then
    fail token (.reservedEnumValue token.lexeme)
  let _ ← name
  let _ ← declaredDirectives

/-- The parts of a type definition behind its name: whether there are any, and the fields. -/
def typeBody : TypeKind → Reader (Bool × List Field)
  | .scalar => do
    let directives ← declaredDirectives
    return (!directives.isEmpty, [])
  | .object | .interface => do
    let interfaces ← interfaces
    let directives ← declaredDirectives
    let fields ← optionalBetween .braceOpen .braceClose outputField
    return (!(interfaces.isEmpty && directives.isEmpty && fields.isEmpty), fields)
  | .union => do
    let directives ← declaredDirectives
    let members ← members
    return (!(directives.isEmpty && members.isEmpty), [])
  | .enumeration => do
    let directives ← declaredDirectives
    let members ← optionalBetween .braceOpen .braceClose enumMember
    return (!(directives.isEmpty && members.isEmpty), [])
  | .inputObject => do
    let directives ← declaredDirectives
    let fields ← optionalBetween .braceOpen .braceClose inputField
    return (!(directives.isEmpty && fields.isEmpty), fields)

def kindOfKeyword? : String → Option TypeKind
  | "scalar" => some .scalar
  | "type" => some .object
  | "interface" => some .interface
  | "union" => some .union
  | "enum" => some .enumeration
  | "input" => some .inputObject
  | _ => none

def operationKeyword : Reader Operation := do
  let token ← current
  let word ← name
  match Operation.ofKeyword? word.text with
  | some operation => return operation
  | none => refuse token

/-- An entry of a schema definition: an operation and its root type. -/
def root : Reader (Operation × Name) := do
  let operation ← operationKeyword
  expectMark .colon
  return (operation, ← name)

/-! Definitions. -/

/-- A type definition behind its keyword. -/
def typeDefinition (kind : TypeKind) (description : Option String) : Reader Definition := do
  let name ← name
  let (_, fields) ← typeBody kind
  return .type { kind, name, description, fields }

/-- A type extension behind its keyword. It has to say something. -/
def typeExtension (kind : TypeKind) : Reader Definition := do
  let name ← name
  let (hasContent, fields) ← typeBody kind
  if hasContent then return .type { kind, isExtension := true, name, fields } else unexpected

def schemaDefinition (description : Option String) : Reader Definition := do
  let _ ← declaredDirectives
  return .schema false description (← someBetween .braceOpen .braceClose root)

def schemaExtension : Reader Definition := do
  let directives ← declaredDirectives
  let roots ← optionalBetween .braceOpen .braceClose root
  if directives.isEmpty && roots.isEmpty then unexpected else return .schema true none roots

/-- The places a directive can be declared for. -/
def directiveLocations : List String :=
  ["QUERY", "MUTATION", "SUBSCRIPTION", "FIELD", "FRAGMENT_DEFINITION", "FRAGMENT_SPREAD",
    "INLINE_FRAGMENT", "VARIABLE_DEFINITION", "SCHEMA", "SCALAR", "OBJECT", "FIELD_DEFINITION",
    "ARGUMENT_DEFINITION", "INTERFACE", "UNION", "ENUM", "ENUM_VALUE", "INPUT_OBJECT",
    "INPUT_FIELD_DEFINITION", "DIRECTIVE_DEFINITION", "FRAGMENT_VARIABLE_DEFINITION"]

def directiveLocation : Reader Unit := do
  let token ← current
  let place ← name
  if place.text ∈ directiveLocations then return else refuse token

def directiveDefinition (description : Option String) : Reader Definition := do
  expectMark .atSign
  let name ← name
  let _ ← optionalBetween .parenOpen .parenClose inputField
  let _ ← declaredDirectives
  let _ ← takeKeyword "repeatable"
  expectKeyword "on"
  let _ ← separated .pipe directiveLocation
  return .directive false name description

/-- An extension gives a directive more directives of its own, and nothing else. -/
def directiveExtension : Reader Definition := do
  expectMark .atSign
  let name ← name
  if (← declaredDirectives).isEmpty then unexpected else return .directive true name none

/-! Operations and fragments may stand in a document; nothing of them but the name is kept. -/

/-- The name of a fragment, which is not `on`. -/
def fragmentName : Reader Name := do
  let token ← current
  if token.lexeme.content? = some "on" then refuse token else name

/-- One selection, given the room below it and how to read the selections there. -/
def selection (room : Nat) (below : Reader Unit) : Reader Unit := do
  if ← takeMark .spread then
    let conditional ← takeKeyword "on"
    match (← current).lexeme, conditional with
    | .name _, false =>
      let _ ← fragmentName
      let _ ← directives false room
    | _, _ =>
      if conditional then
        let _ ← name
      let _ ← directives false room
      below
  else
    let _ ← name
    if ← takeMark .colon then
      let _ ← name
    arguments false room
    let _ ← directives false room
    if ← atMark .braceOpen then below

/-- Selections in braces with room for so many in each other. -/
def selectionSetUpTo : Nat → Reader Unit
  | 0 => tooDeep
  | room + 1 => do
    let _ ← between .braceOpen .braceClose (selection room (selectionSetUpTo room))

def selectionSet : Reader Unit := selectionSetUpTo nestingLimit

def variableDefinition : Reader Unit := do
  let _ ← description
  variableUse false
  expectMark .colon
  let _ ← typeRef
  initialValue
  let _ ← declaredDirectives

def operationDefinition (description : Option String) : Reader Definition := do
  let _ ← operationKeyword
  let found ← do
    match (← current).lexeme with
    | .name _ => some <$> name
    | _ => pure none
  let _ ← optionalBetween .parenOpen .parenClose variableDefinition
  let _ ← directives false nestingLimit
  selectionSet
  return .operation found description

def fragmentDefinition (description : Option String) : Reader Definition := do
  expectKeyword "fragment"
  let found ← fragmentName
  expectKeyword "on"
  let _ ← name
  let _ ← directives false nestingLimit
  selectionSet
  return .fragment found description

/-- An extension. It begins with `extend` and the keyword of what it extends. -/
def extension : Reader Definition := do
  let keyword ← second
  match keyword.lexeme with
  | .name word =>
    match kindOfKeyword? word.text with
    | some kind => do advance; advance; typeExtension kind
    | none =>
      match word.text with
      | "schema" => do advance; advance; schemaExtension
      | "directive" => do advance; advance; directiveExtension
      | _ => refuse keyword
  | _ => refuse keyword

/-- A definition whose keyword is known. The keywords of the type system come first, then those that
only execution knows; a description can stand before both, but not before an extension. -/
def definitionOfKeyword (word : String) (start : Token) (described : Bool) (keyword : Token) :
    Reader Definition :=
  match kindOfKeyword? word with
  | some kind => do
    let description ← description
    advance
    typeDefinition kind description
  | none =>
    match word with
    | "schema" => do
      let description ← description
      advance
      schemaDefinition description
    | "directive" => do
      let description ← description
      advance
      directiveDefinition description
    | "query" | "mutation" | "subscription" => do operationDefinition (← description)
    | "fragment" => do fragmentDefinition (← description)
    | _ =>
      if described then fail start .misplacedDescription
      else if word = "extend" then extension
      else refuse keyword

def definition : Reader Definition := do
  let start ← current
  if start.lexeme = .mark .braceOpen then
    selectionSet
    return .operation none none
  let described := match start.lexeme with
    | .string _ | .blockString _ => true
    | _ => false
  let keyword ← if described then second else pure start
  match keyword.lexeme with
  | .name word => definitionOfKeyword word.text start described keyword
  | _ =>
    if described && keyword.lexeme = .mark .braceOpen then fail start .shorthandDescription
    else refuse keyword

/-- Definitions up to the end of the file, at most the given number. -/
def definitionsUpTo : Nat → Reader (List Definition)
  | 0 => return []
  | steps + 1 => do
    if (← current).lexeme = .endOfFile then return []
    let first ← definition
    return first :: (← definitionsUpTo steps)

/-- A document has at least one definition. -/
def document : Reader Document := do
  let first ← definition
  return first :: (← definitionsUpTo (← bound))

/-- Applies a reader to a whole text. -/
def run (reader : Reader α) (text : String) : Except SyntaxError α := do
  let (result, _) ← StateT.run reader (TokenStream.ofString text)
  return result

end Reader

/-- The document that a text spells. -/
def Document.read (text : String) : Except SyntaxError Document :=
  Reader.document.run text

/-- The type reference that a text spells. -/
def TypeRef.read (text : String) : Except SyntaxError TypeRef :=
  Reader.run (do let reference ← Reader.typeRef; Reader.expectEnd; return reference) text

end SelectionGen.Sdl
