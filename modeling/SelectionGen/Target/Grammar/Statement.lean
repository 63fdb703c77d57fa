import SelectionGen.Target.Grammar.Pattern

/-! Statements. Simple ones stand on a line, several with semicolons between them; compound ones have
blocks, which are a line or an indented sequence of statements. -/
namespace SelectionGen.Target
namespace Grammar

/-- The operator of a mark that changes what stands in front of it. -/
def updateOperator? (text : String) : Option BinaryOperator :=
  if text.toList.getLast? = some '=' then
    BinaryOperator.ofMark? (String.ofList text.toList.dropLast)
  else none

/-- A value to assign or expressions with commas between them. -/
def givenValue : Reader Expression := fun tokens =>
  (yielded expression tokens).or (tupleExpression expression tokens)

/-- Values behind an assignment mark: more targets, and the value that they all get. -/
def assignmentsWithin : (within : List Token) → Reader (List Expression × Expression)
  | [], _ => none
  | _ :: within, tokens =>
    match yielded expression tokens with
    | some (value, rest) => some (([], value), rest)
    | none => do
      let (listing, rest) ← tuple expression tokens
      let found := listing.expression (lineOf tokens)
      match mark "=" rest with
      | none => return (([], found), rest)
      | some rest =>
        if listing.items.all Expression.isTarget then
          let ((targets, value), rest) ← assignmentsWithin within rest
          return ((found :: targets, value), rest)
        else none

/-- An assignment to what is given in front, a change of it, a declaration of its type, or nothing. What is
declared is a name alone unless there are brackets around it. -/
def behindExpressions (given : Listing Expression) (found : Expression) (inBrackets : Bool) :
    Reader StatementForm := fun tokens =>
  let isSingle := (given.single?.map Expression.shape) = some .single
  match tokens with
  | ⟨.mark text, _⟩ :: rest =>
    match updateOperator? text with
    | some operator =>
      if isSingle then do
        let (value, rest) ← givenValue rest
        return (.update found operator value, rest)
      else none
    | none =>
      if text = "=" then
        if given.items.all Expression.isTarget then do
          let ((targets, value), rest) ← assignmentsWithin rest rest
          return (.assignment (found :: targets) value, rest)
        else none
      else if text = ":" then
        if isSingle then do
          let (type, rest) ← expression .whole rest
          let (value, rest) ← behind (mark "=") givenValue rest
          let isName := match found.form with
            | .name _ => true
            | _ => false
          return (.declaration found type value (isName && !inBrackets), rest)
        else none
      else some (.expression found, tokens)
  | _ => some (.expression found, tokens)

def expressionStatement : Reader StatementForm := fun tokens =>
  match yielded expression tokens with
  | some (value, rest) => some (.expression value, rest)
  | none => do
    let (given, rest) ← tuple expression tokens
    behindExpressions given (given.expression (lineOf tokens)) (startsWith "(" tokens) rest

/-- A named thing, possibly bound to another name. -/
def aliased (read : Reader String) : Reader ImportedName := fun tokens => do
  let (name, rest) ← read tokens
  let (alias?, rest) ← behind (word "as") identifier rest
  return (⟨lineOf tokens, name, alias?⟩, rest)

/-- A name of a module with its packages. -/
def moduleName : Reader String := fun tokens =>
  (dottedNames tokens).map fun (names, rest) => (".".intercalate names, rest)

/-- A dot or three in front of the module of a relative import, counted. -/
def dots : Reader Nat
  | ⟨.mark ".", _⟩ :: rest => some (1, rest)
  | ⟨.mark "...", _⟩ :: rest => some (3, rest)
  | _ => none

/-- What is imported from a module; nothing in particular means all of it. -/
def importedNames : Reader (Option (List ImportedName))
  | ⟨.mark "*", _⟩ :: rest => some (none, rest)
  | ⟨.mark "(", _⟩ :: rest => do
    let (names, rest) ← listed (aliased identifier) rest
    return (some names.items, ← mark ")" rest)
  | tokens => do
    let (names, rest) ← commaSeparated (aliased identifier) tokens
    return (some names, rest)

def importFrom : Reader StatementForm := fun tokens => do
  let (leading, rest) := repeatedly dots tokens
  let (source, rest) := perhaps moduleName rest
  if leading.isEmpty && source.isNone then none
  let (names, rest) ← importedNames (← word "import" rest)
  return (.importsFrom (leading.foldl (· + ·) 0) source names, rest)

/-- An error to raise, possibly with its cause. -/
def raised : Reader StatementForm := fun tokens =>
  match expression .whole tokens with
  | none => some (.error none none, tokens)
  | some (value, rest) => do
    let (cause, rest) ← behind (word "from") (expression .whole) rest
    return (.error (some value) cause, rest)

/-- A condition that has to hold, possibly with a message. -/
def asserted : Reader StatementForm := fun tokens => do
  let (condition, rest) ← expression .whole tokens
  let (message, rest) ← behind (mark ",") (expression .whole) rest
  return (.assertion condition message, rest)

/-- Things to delete. -/
def deleted : Reader StatementForm := fun tokens => do
  let (given, rest) ← listed (expression .primary) tokens
  if given.items.all fun item => item.shape.isDeletable then
    return (.deletion given.items, rest)
  else none

def simpleForm : Reader StatementForm
  | ⟨.name "pass", _⟩ :: rest => some (.pass, rest)
  | ⟨.name "break", _⟩ :: rest => some (.leaveLoop, rest)
  | ⟨.name "continue", _⟩ :: rest => some (.continueLoop, rest)
  | ⟨.name "global", _⟩ :: rest => do
    let (names, rest) ← commaSeparated identifier rest
    return (.globalNames names, rest)
  | ⟨.name "nonlocal", _⟩ :: rest => do
    let (names, rest) ← commaSeparated identifier rest
    return (.outerNames names, rest)
  | ⟨.name "raise", _⟩ :: rest => raised rest
  | ⟨.name "assert", _⟩ :: rest => asserted rest
  | ⟨.name "del", _⟩ :: rest => deleted rest
  | ⟨.name "return", _⟩ :: rest =>
    let (value, rest) := perhaps (tupleExpression expression) rest
    some (.result value, rest)
  | ⟨.name "import", _⟩ :: rest => do
    let (modules, rest) ← commaSeparated (aliased moduleName) rest
    return (.imports modules, rest)
  | ⟨.name "from", _⟩ :: rest => importFrom rest
  | tokens => expressionStatement tokens

def simpleStatement : Reader Statement := fun tokens =>
  (simpleForm tokens).map fun (form, rest) => (⟨lineOf tokens, form⟩, rest)

def simpleLineWithin : (within : List Token) → Reader (List Statement)
  | [], _ => none
  | _ :: within, tokens => do
    let (first, rest) ← simpleStatement tokens
    match mark ";" rest with
    | none => return ([first], ← lineEnd rest)
    | some rest =>
      match lineEnd rest with
      | some rest => return ([first], rest)
      | none =>
        let (others, rest) ← simpleLineWithin within rest
        return (first :: others, rest)

/-- Statements on one line with semicolons between them. -/
def simpleLine : Reader (List Statement) := fun tokens => simpleLineWithin tokens tokens

/-- Reads statements: a compound one, or those of a line. -/
abbrev Statements := Reader (List Statement)

/-- The statements of an indented block, at least one. -/
def statementsUntilDedent (statements : Statements) : (within : List Token) → Statements
  | [], _ => none
  | _ :: within, tokens => do
    let (first, rest) ← statements tokens
    match rest with
    | ⟨.dedent, _⟩ :: rest => return (first, rest)
    | _ =>
      let (others, rest) ← statementsUntilDedent statements within rest
      return (first ++ others, rest)

/-- A colon and what stands behind it. -/
def block (statements : Statements) : Statements
  | ⟨.mark ":", _⟩ :: ⟨.lineEnd, _⟩ :: ⟨.indent, _⟩ :: rest =>
    statementsUntilDedent statements rest rest
  | ⟨.mark ":", _⟩ :: rest => simpleLine rest
  | _ => none

/-- A block behind a keyword alone. -/
def blockBehind (keyword : String) (statements : Statements) : Statements := fun tokens => do
  block statements (← word keyword tokens)

/-- A block behind a keyword alone, or none. -/
def perhapsBlock (keyword : String) (statements : Statements) (tokens : List Token) :
    List Statement × List Token :=
  let (found, rest) := perhaps (blockBehind keyword statements) tokens
  (found.getD [], rest)

/-- A function with its decorators, behind its keyword. -/
def functionDefinition (statements : Statements) (isAsync : Bool) (decorators : List Expression) :
    Reader StatementForm := fun tokens => do
  let (name, rest) ← identifier tokens
  let (taken, rest) ← parameters expression true ")" (← mark "(" rest)
  let (result, rest) ← behind (mark "->") (expression .whole) rest
  let (body, rest) ← block statements rest
  return (.function isAsync name taken result decorators body, rest)

/-- A class with its decorators, behind its keyword. -/
def classDefinition (statements : Statements) (decorators : List Expression) :
    Reader StatementForm := fun tokens => do
  let (name, rest) ← identifier tokens
  let ((bases, keywords), rest) ← match rest with
    | ⟨.mark "(", line⟩ :: rest => arguments expression line .positional rest
    | _ => some (([], []), rest)
  let (body, rest) ← block statements rest
  return (.type name bases keywords decorators body, rest)

/-- Something to work with, possibly assigned to a target. -/
def resource : Reader Resource := fun tokens => do
  let (value, rest) ← expression .whole tokens
  let (assigned, rest) ← behind (word "as") (target expression) rest
  return (⟨value, assigned⟩, rest)

/-- Things to work with, up to the colon behind them. There may be brackets around all of them. -/
def resources : Reader (List Resource) := fun tokens =>
  let inBrackets := do
    let (found, rest) ← listed resource (← mark "(" tokens)
    let rest ← mark ")" rest
    if startsWith ":" rest then some (found.items, rest) else none
  inBrackets.or (commaSeparated resource tokens)

/-- A condition and a block behind a keyword. -/
def conditional (keyword : String) (statements : Statements) :
    Reader (Expression × List Statement) := fun tokens => do
  let (condition, rest) ← named expression (← word keyword tokens)
  let (body, rest) ← block statements rest
  return ((condition, body), rest)

/-- Conditions one after the other with what is done if none of them holds. -/
def otherwiseOf (conditions : List (Nat × Expression × List Statement)) (otherwise : List Statement) :
    List Statement :=
  match conditions with
  | [] => otherwise
  | (line, condition, body) :: rest =>
    [⟨line, .choice condition body (otherwiseOf rest otherwise)⟩]

def choice (statements : Statements) : Reader StatementForm := fun tokens => do
  let ((condition, body), rest) ← conditional "if" statements tokens
  let alternative : Reader (Nat × Expression × List Statement) := fun tokens =>
    (conditional "elif" statements tokens).map fun (found, rest) => ((lineOf tokens, found), rest)
  let (others, rest) := repeatedly alternative rest
  let (otherwise, rest) := perhapsBlock "else" statements rest
  return (.choice condition body (otherwiseOf others otherwise), rest)

def whileLoop (statements : Statements) : Reader StatementForm := fun tokens => do
  let ((condition, body), rest) ← conditional "while" statements tokens
  let (otherwise, rest) := perhapsBlock "else" statements rest
  return (.whileLoop condition body otherwise, rest)

/-- A handler of errors; the flag tells whether it is one for groups of them. -/
def handler (isForGroups : Bool) (statements : Statements) : Reader Handler := fun tokens => do
  let rest ← word "except" tokens
  let typed : Reader (Expression × Option String) := fun tokens => do
    let (type, rest) ← expression .whole tokens
    let (name, rest) ← behind (word "as") identifier rest
    return ((type, name), rest)
  let (found, rest) ← match isForGroups with
    | true => (typed (← mark "*" rest)).map fun (found, rest) => (some found, rest)
    | false => some (perhaps typed rest)
  let (body, rest) ← block statements rest
  return (⟨lineOf tokens, found.map Prod.fst, found.bind Prod.snd, body⟩, rest)

/-- What is tried, and behind it handlers and what is done in the other case, or only what is done in the
end. -/
def attempt (statements : Statements) : Reader StatementForm := fun tokens => do
  let (body, rest) ← blockBehind "try" statements tokens
  let handled (isForGroups : Bool) : Option (StatementForm × List Token) := do
    let (handlers, rest) ← severalTimes (handler isForGroups statements) rest
    let (otherwise, rest) := perhapsBlock "else" statements rest
    let (ending, rest) := perhapsBlock "finally" statements rest
    return (.attempt isForGroups body handlers otherwise ending, rest)
  match (handled true).or (handled false) with
  | some found => return found
  | none =>
    let (ending, rest) ← blockBehind "finally" statements rest
    return (.attempt false body [] [] ending, rest)

/-- A case with its pattern and possibly a condition. -/
def matchCase (statements : Statements) : Reader Case := fun tokens => do
  let (pattern, rest) ← casePattern (← word "case" tokens)
  let (condition, rest) ← behind (word "if") (named expression) rest
  let (body, rest) ← block statements rest
  return (⟨pattern, condition, body⟩, rest)

/-- A choice between patterns. The words that it begins with can be names as well. -/
def selection (statements : Statements) : Reader StatementForm := fun tokens => do
  let start ← word "match" tokens
  let (listing, rest) ← listed (element expression) start
  let subject := listing.expression (lineOf start)
  if subject.isStarred then none
  match ← mark ":" rest with
  | ⟨.lineEnd, _⟩ :: ⟨.indent, _⟩ :: cases =>
    match ← severalTimes (matchCase statements) cases with
    | (found, ⟨.dedent, _⟩ :: rest) => return (.selection subject found, rest)
    | _ => none
  | _ => none

/-- A loop or a resource block, with the keyword that begins it. -/
def iteration (statements : Statements) (isAsync : Bool) : Reader StatementForm
  | ⟨.name "for", _⟩ :: rest => do
    let (assigned, rest) ← targets expression rest
    let (source, rest) ← tupleExpression expression (← word "in" rest)
    let (body, rest) ← block statements rest
    let (otherwise, rest) := perhapsBlock "else" statements rest
    return (.forLoop isAsync assigned source body otherwise, rest)
  | ⟨.name "with", _⟩ :: rest => do
    let (items, rest) ← resources rest
    let (body, rest) ← block statements rest
    return (.resources isAsync items body, rest)
  | _ => none

def definition (statements : Statements) (decorators : List Expression) : Reader StatementForm
  | ⟨.name "def", _⟩ :: rest => functionDefinition statements false decorators rest
  | ⟨.name "async", _⟩ :: ⟨.name "def", _⟩ :: rest =>
    functionDefinition statements true decorators rest
  | ⟨.name "class", _⟩ :: rest => classDefinition statements decorators rest
  | _ => none

/-- A decorator on a line of its own. -/
def decorator : Reader Expression := fun tokens => do
  let (found, rest) ← named expression (← mark "@" tokens)
  return (found, ← lineEnd rest)

/-- Reads one compound statement. -/
def single (read : Reader StatementForm) : Statements := fun tokens =>
  (read tokens).map fun (form, rest) => ([⟨lineOf tokens, form⟩], rest)

/-- A compound statement or a line. Each level of nested blocks takes a token. -/
def statementsWithin : (within : List Token) → Statements
  | [], _ => none
  | _ :: within, tokens =>
    let statements := statementsWithin within
    match tokens with
    | ⟨.mark "@", _⟩ :: _ =>
      let (decorators, rest) := repeatedly decorator tokens
      single (definition statements decorators) rest
    | ⟨.name "def", _⟩ :: _ | ⟨.name "class", _⟩ :: _
    | ⟨.name "async", _⟩ :: ⟨.name "def", _⟩ :: _ =>
      single (definition statements []) tokens
    | ⟨.name "if", _⟩ :: _ => single (choice statements) tokens
    | ⟨.name "while", _⟩ :: _ => single (whileLoop statements) tokens
    | ⟨.name "for", _⟩ :: _ | ⟨.name "with", _⟩ :: _ => single (iteration statements false) tokens
    | ⟨.name "async", line⟩ :: rest =>
      (iteration statements true rest).map fun (form, rest) => ([⟨line, form⟩], rest)
    | ⟨.name "try", _⟩ :: _ => single (attempt statements) tokens
    | ⟨.name "match", _⟩ :: _ => (single (selection statements) tokens).or (simpleLine tokens)
    | _ => simpleLine tokens

def codeWithin : (within : List Token) → List Token → Option Code
  | _, [] => some []
  | [], _ => none
  | _ :: within, tokens => do
    let (first, rest) ← statementsWithin tokens tokens
    return first ++ (← codeWithin within rest)

/-- The code that all tokens of a sequence make up. -/
def codeOf (tokens : List Token) : Option Code := codeWithin tokens tokens

end Grammar

end SelectionGen.Target
