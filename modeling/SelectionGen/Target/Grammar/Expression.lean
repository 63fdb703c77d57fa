import SelectionGen.Target.Grammar.Operator

/-! Expressions. What stands in brackets is read by readers for the four strengths of expressions, from a
name with its members up to a whole expression, that are handed down; tying them together takes one
level of nesting for each. -/
namespace SelectionGen.Target
namespace Grammar

/-- How much an expression may consist of: something with members, calls and indexes behind it; that with
arithmetic; with comparisons and their combinations as well; or anything. -/
inductive Strength
  | primary
  | arithmetic
  | logical
  | whole
deriving DecidableEq, Repr

/-- Readers of the expressions nested in another one. -/
abbrev Nested := Strength → Reader Expression

/-- Reads the form of an expression, which begins on the line of the tokens. -/
def expressionOf (read : Reader ExpressionForm) : Reader Expression := fun tokens =>
  (read tokens).map fun (form, rest) => (⟨lineOf tokens, form⟩, rest)

/-- An expression, possibly with a star in front. -/
def starredOr (nested : Nested) (read : Reader Expression) : Reader Expression := fun tokens =>
  match mark "*" tokens with
  | some rest => do
    let (operand, rest) ← nested .arithmetic rest
    return (⟨lineOf tokens, .starred operand⟩, rest)
  | none => read tokens

/-- A name with the mark behind it that binds it within an expression. -/
def boundName : Reader String
  | ⟨.name found, line⟩ :: ⟨.mark ":=", _⟩ :: rest => do
    let (name, _) ← identifier [⟨.name found, line⟩]
    return (name, rest)
  | _ => none

/-- An expression, possibly bound to a name. -/
def named (nested : Nested) : Reader Expression := fun tokens =>
  match boundName tokens with
  | some (name, rest) => do
    let (value, rest) ← nested .whole rest
    let line := lineOf tokens
    return (⟨line, .named ⟨line, .name name⟩ value⟩, rest)
  | none => nested .whole tokens

/-- An element of a sequence. -/
def element (nested : Nested) : Reader Expression := starredOr nested (named nested)

/-- The expression that a listing is: its item, or a sequence of them that begins on a line. -/
def Listing.expression (listing : Listing Expression) (line : Nat) : Expression :=
  listing.single?.getD ⟨line, .tuple listing.items⟩

/-- Whole expressions, starred or not, with commas between them. -/
def tuple (nested : Nested) : Reader (Listing Expression) := listed (starredOr nested (nested .whole))

/-- Whole expressions with commas between them as one expression. -/
def tupleExpression (nested : Nested) : Reader Expression := fun tokens => do
  let (listing, rest) ← tuple nested tokens
  return (listing.expression (lineOf tokens), rest)

/-- What a function gives to its caller before it goes on. -/
def yielded (nested : Nested) : Reader Expression := expressionOf fun tokens => do
  let rest ← word "yield" tokens
  match word "from" rest with
  | some rest =>
    let (source, rest) ← nested .whole rest
    return (.yieldedFrom source, rest)
  | none =>
    let (value, rest) := perhaps (tupleExpression nested) rest
    return (.yielded value, rest)

/-- Something that can be assigned to, possibly with a star in front. -/
def target (nested : Nested) : Reader Expression := fun tokens =>
  match mark "*" tokens with
  | some rest => do
    let (operand, rest) ← nested .primary rest
    if operand.isTarget then return (⟨lineOf tokens, .starred operand⟩, rest) else none
  | none => do
    let (found, rest) ← nested .primary tokens
    if found.isTarget then return (found, rest) else none

/-- The targets that a loop assigns to. -/
def targets (nested : Nested) : Reader Expression := fun tokens => do
  let (listing, rest) ← listed (target nested) tokens
  return (listing.expression (lineOf tokens), rest)

/-- A loop within an expression and the conditions behind it. -/
def innerLoop (nested : Nested) : Reader Loop := fun tokens => do
  let isAsync := (word "async" tokens).isSome
  let (target, rest) ← targets nested (← word "for" (optionally (word "async") tokens))
  let (source, rest) ← nested .logical (← word "in" rest)
  let (conditions, rest) := repeatedly (fun tokens => do nested .logical (← word "if" tokens)) rest
  return (⟨isAsync, target, source, conditions⟩, rest)

def innerLoops (nested : Nested) : Reader (List Loop) := severalTimes (innerLoop nested)

/-- What stands behind an opening round bracket on a line. One expression alone is no sequence. -/
def inRoundBrackets (nested : Nested) (line : Nat) : Reader Expression := fun tokens =>
  match mark ")" tokens, yielded nested tokens with
  | some rest, _ => some (⟨line, .tuple []⟩, rest)
  | none, some (found, rest) => do return (found, ← mark ")" rest)
  | none, none => do
    let (elements, rest) ← listed (element nested) tokens
    match elements.single? with
    | none => return (⟨line, .tuple elements.items⟩, ← mark ")" rest)
    | some found =>
      if found.isStarred then none
      else match mark ")" rest with
        | some rest => return (found, rest)
        | none =>
          let (loops, rest) ← innerLoops nested rest
          return (⟨line, .collected .generator found loops⟩, ← mark ")" rest)

/-- What stands behind an opening square bracket that begins a list. -/
def inSquareBrackets (nested : Nested) : Reader ExpressionForm := fun tokens =>
  match mark "]" tokens with
  | some rest => some (.list [], rest)
  | none => do
    let (elements, rest) ← listed (element nested) tokens
    match mark "]" rest, elements.single? with
    | some rest, _ => return (.list elements.items, rest)
    | none, some found =>
      if found.isStarred then none
      else
        let (loops, rest) ← innerLoops nested rest
        return (.collected .list found loops, ← mark "]" rest)
    | none, none => none

/-- An entry of a mapping, or all entries of another one. -/
def entry (nested : Nested) : Reader Entry := fun tokens =>
  match mark "**" tokens with
  | some rest => do
    let (mapping, rest) ← nested .arithmetic rest
    return (.all mapping, rest)
  | none => do
    let (key, rest) ← nested .whole tokens
    let (value, rest) ← nested .whole (← mark ":" rest)
    return (.pair key value, rest)

/-- What stands behind the first entry of a mapping. -/
def moreEntries (nested : Nested) (first : Entry) : Reader ExpressionForm := fun tokens =>
  match mark "," tokens with
  | none => do return (.mapping [first], ← mark "\x7d" tokens)
  | some rest => do
    let (others, rest) := perhaps (listed (entry nested)) rest
    return (.mapping (first :: (others.map Listing.items).getD []), ← mark "\x7d" rest)

/-- What stands behind an opening curly bracket: the entries of a mapping or the elements of a set. -/
def inCurlyBrackets (nested : Nested) : Reader ExpressionForm := fun tokens =>
  match mark "\x7d" tokens, mark "**" tokens with
  | some rest, _ => some (.mapping [], rest)
  | none, some rest => do
    let (mapping, rest) ← nested .arithmetic rest
    moreEntries nested (.all mapping) rest
  | none, none => do
    let isPlain := !startsWith "*" tokens && (boundName tokens).isNone
    let (first, rest) ← element nested tokens
    match mark ":" rest with
    | some value =>
      if isPlain then do
        let (value, rest) ← nested .whole value
        match innerLoops nested rest with
        | some (loops, rest) => return (.collectedEntries first value loops, ← mark "\x7d" rest)
        | none => moreEntries nested (.pair first value) rest
      else none
    | none =>
      match innerLoops nested rest, mark "," rest with
      | some (loops, rest), _ =>
        if first.isStarred then none
        else return (.collected .set first loops, ← mark "\x7d" rest)
      | none, none => return (.set [first], ← mark "\x7d" rest)
      | none, some rest =>
        let (others, rest) := perhaps (listed (element nested)) rest
        return (.set (first :: (others.map Listing.items).getD []), ← mark "\x7d" rest)

/-- The words for values. -/
def constant? : String → Option Constant
  | "None" => some .nothing
  | "True" => some (.truth true)
  | "False" => some (.truth false)
  | _ => none

/-- Pieces without plain ones that are empty or stand behind another plain one. -/
def joinedPieces : List Piece → List Piece
  | [] => []
  | .plain text :: rest =>
    match joinedPieces rest with
    | .plain more :: others => .plain (text ++ more) :: others
    | others => if text = "" then others else .plain text :: others
  | piece :: rest => piece :: joinedPieces rest

/-- The parts of a formatted literal, or of a format in it, up to its end. -/
def piecesWithin (nested : Nested) : (within : List Token) → Reader (List Piece)
  | _ :: within, ⟨.plain text, _⟩ :: rest => do
    let (others, rest) ← piecesWithin nested within rest
    return (.plain text :: others, rest)
  | _ :: within, ⟨.field conversion, _⟩ :: ⟨.mark "(", line⟩ :: rest => do
    let (value, rest) ← inRoundBrackets nested line rest
    let (format, rest) ← piecesWithin nested within rest
    let (others, rest) ← piecesWithin nested within rest
    return (.field value conversion (joinedPieces format) :: others, rest)
  | _, ⟨.finish, _⟩ :: rest => some ([], rest)
  | _, _ => none

/-- Literals of text one behind the other: their pieces, and whether one of them is formatted. -/
def textsWithin (nested : Nested) : (within : List Token) → Reader (List Piece × Bool)
  | _ :: within, ⟨.literal (.text text), _⟩ :: rest => do
    let ((others, isFormatted), rest) ← textsWithin nested within rest
    return ((.plain text :: others, isFormatted), rest)
  | _ :: within, ⟨.formatted, _⟩ :: rest => do
    let (pieces, rest) ← piecesWithin nested rest rest
    let ((others, _), rest) ← textsWithin nested within rest
    return ((pieces ++ others, true), rest)
  | _, ⟨.literal _, _⟩ :: _ => none
  | _, tokens => some (([], false), tokens)

/-- Literals of bytes one behind the other. -/
def bytesWithin : (within : List Token) → Reader (List UInt8)
  | _ :: within, ⟨.literal (.bytes values), _⟩ :: rest => do
    let (others, rest) ← bytesWithin within rest
    return (values ++ others, rest)
  | _, ⟨.literal _, _⟩ :: _ | _, ⟨.formatted, _⟩ :: _ => none
  | _, tokens => some ([], tokens)

/-- The text of pieces that are all plain. -/
def plainText (pieces : List Piece) : String :=
  "".intercalate (pieces.map fun
    | .plain text => text
    | .field .. => "")

/-- Literals one behind the other. Either all or none of them are bytes. -/
def literals (nested : Nested) : Reader ExpressionForm := fun tokens =>
  match tokens with
  | ⟨.literal (.bytes _), _⟩ :: _ => do
    let (values, rest) ← bytesWithin tokens tokens
    return (.constant (.bytes values), rest)
  | _ => do
    let ((pieces, isFormatted), rest) ← textsWithin nested tokens tokens
    return (if isFormatted then .formatted (joinedPieces pieces)
      else .constant (.text (plainText pieces)), rest)

/-- The smallest expressions, and those in brackets. -/
def atom (nested : Nested) : Reader Expression := fun tokens =>
  match tokens with
  | ⟨.mark "(", line⟩ :: rest => inRoundBrackets nested line rest
  | _ => tokens |> expressionOf fun tokens =>
    match tokens with
    | ⟨.name text, _⟩ :: rest =>
      match constant? text with
      | some value => some (.constant value, rest)
      | none => (identifier tokens).map fun _ => (.name text, rest)
    | ⟨.number value, _⟩ :: rest => some (.constant value, rest)
    | ⟨.literal _, _⟩ :: _ | ⟨.formatted, _⟩ :: _ => literals nested tokens
    | ⟨.mark "...", _⟩ :: rest => some (.constant .ellipsis, rest)
    | ⟨.mark "[", _⟩ :: rest => inSquareBrackets nested rest
    | ⟨.mark "\x7b", _⟩ :: rest => inCurlyBrackets nested rest
    | _ => none

/-- Which arguments can still follow: all, all but one that makes up the whole list, none without a name,
or none but those by name and in mappings. -/
inductive ArgumentPhase
  | first
  | positional
  | byName
  | inMapping
deriving DecidableEq, Repr

/-- An argument by place, or one by name or in a mapping. -/
inductive Argument
  | byPlace (value : Expression)
  | byKeyword (keyword : Keyword)

/-- The arguments by place and the others. -/
def Argument.divide (arguments : List Argument) : List Expression × List Keyword :=
  (arguments.filterMap fun
      | .byPlace value => some value
      | .byKeyword _ => none,
    arguments.filterMap fun
      | .byPlace _ => none
      | .byKeyword keyword => some keyword)

/-- A name with an equals sign behind it. -/
def keywordName : Reader String := fun tokens => do
  let (name, rest) ← identifier tokens
  return (name, ← mark "=" rest)

/-- An argument, and which ones can follow it. -/
def argument (nested : Nested) (phase : ArgumentPhase) : Reader (ArgumentPhase × Argument) :=
  fun tokens =>
    let line := lineOf tokens
    let starred (phase : ArgumentPhase) (rest : List Token) :
        Option ((ArgumentPhase × Argument) × List Token) := do
      let (value, rest) ← nested .whole rest
      return ((phase, .byPlace ⟨line, .starred value⟩), rest)
    let keyword (phase : ArgumentPhase) (name : Option String) (rest : List Token) :
        Option ((ArgumentPhase × Argument) × List Token) := do
      let (value, rest) ← nested .whole rest
      return ((phase, .byKeyword ⟨line, name, value⟩), rest)
    match mark "**" tokens, mark "*" tokens, keywordName tokens with
    | some rest, _, _ => keyword .inMapping none rest
    | none, some rest, _ =>
      match phase with
      | .inMapping => none
      | .byName => starred .byName rest
      | _ => starred .positional rest
    | none, none, some (name, rest) =>
      keyword (if phase = .inMapping then .inMapping else .byName) (some name) rest
    | none, none, none =>
      match phase with
      | .byName | .inMapping => none
      | _ => do
        let (value, rest) ← named nested tokens
        return ((.positional, .byPlace value), rest)

def argumentsWithin (nested : Nested) (line : Nat) :
    (within : List Token) → ArgumentPhase → Reader (List Argument)
  | [], _, _ => none
  | _ :: within, phase, tokens =>
    match mark ")" tokens with
    | some rest => some ([], rest)
    | none => do
      let ((after, found), rest) ← argument nested phase tokens
      match mark "," rest, mark ")" rest, found with
      | some rest, _, _ =>
        let (others, rest) ← argumentsWithin nested line within after rest
        return (found :: others, rest)
      | none, some rest, _ => return ([found], rest)
      | none, none, .byPlace value =>
        if phase = .first && !value.isStarred then
          let (loops, rest) ← innerLoops nested rest
          return ([.byPlace ⟨line, .collected .generator value loops⟩], ← mark ")" rest)
        else none
      | none, none, .byKeyword _ => none

/-- Arguments behind an opening bracket on a line, up to the closing one. A loop can only stand in an
argument that is the only one. -/
def arguments (nested : Nested) (line : Nat) (phase : ArgumentPhase) :
    Reader (List Expression × List Keyword) := fun tokens => do
  let (found, rest) ← argumentsWithin nested line tokens phase tokens
  return (Argument.divide found, rest)

/-- What stands behind the first colon of a range of indexes. -/
def rangeBehind (nested : Nested) (first : Option Expression) (tokens : List Token) :
    ExpressionForm × List Token :=
  let (last, rest) := perhaps (nested .whole) tokens
  match mark ":" rest with
  | none => (.range first last none, rest)
  | some rest =>
    let (step, rest) := perhaps (nested .whole) rest
    (.range first last step, rest)

/-- An index, a range of indexes, or starred indexes. -/
def slice (nested : Nested) : Reader Expression := fun tokens =>
  let line := lineOf tokens
  let rangeFrom (first : Option Expression) (rest : List Token) : Expression × List Token :=
    let (form, rest) := rangeBehind nested first rest
    (⟨line, form⟩, rest)
  match mark "*" tokens, mark ":" tokens with
  | some rest, _ => do
    let (operand, rest) ← nested .whole rest
    return (⟨line, .starred operand⟩, rest)
  | none, some rest => some (rangeFrom none rest)
  | none, none => do
    let (found, rest) ← named nested tokens
    match mark ":" rest, boundName tokens with
    | some rest, none => return rangeFrom (some found) rest
    | _, _ => return (found, rest)

/-- What stands in the brackets of an index. Several indexes make up a sequence, and so do starred ones. -/
def indexKey (nested : Nested) : Reader Expression := fun tokens => do
  let (listing, rest) ← listed (slice nested) tokens
  let key := listing.expression (lineOf tokens)
  return (if key.isStarred then ⟨key.line, .tuple [key]⟩ else key, rest)

/-- What may stand behind an atom: members, calls and indexes. -/
def trailersWithin (nested : Nested) (line : Nat) :
    (within : List Token) → Expression → Reader Expression
  | _ :: within, owner, ⟨.mark ".", _⟩ :: rest => do
    let (name, rest) ← identifier rest
    trailersWithin nested line within ⟨line, .member owner name⟩ rest
  | _ :: within, owner, ⟨.mark "(", opening⟩ :: rest => do
    let ((given, keywords), rest) ← arguments nested opening .first rest
    trailersWithin nested line within ⟨line, .call owner given keywords⟩ rest
  | _ :: within, owner, ⟨.mark "[", _⟩ :: rest => do
    let (key, rest) ← indexKey nested rest
    trailersWithin nested line within ⟨line, .index owner key⟩ (← mark "]" rest)
  | _, found, tokens => some (found, tokens)

def primary (nested : Nested) : Reader Expression := fun tokens => do
  let (found, rest) ← atom nested tokens
  trailersWithin nested (lineOf tokens) rest found rest

/-- What an operand is compared with. -/
def compared (operand : Nat → Reader Expression) : Reader Compared := fun tokens => do
  let (found, rest) ← comparison tokens
  let (right, rest) ← operand (Connective.comparisonLevel + 1) rest
  return (⟨found, right⟩, rest)

/-- An operand together with the operands that join it at least as tightly as a level says. -/
def operationsWithin (operand : Nat → Reader Expression) (line level : Nat) :
    (within : List Token) → Expression → Reader Expression
  | [], left, tokens => some (left, tokens)
  | _ :: within, left, tokens =>
    match connective tokens with
    | none => some (left, tokens)
    | some (found, rest) =>
      if found.level < level then some (left, tokens)
      else do
        let (form, rest) ← match found with
          | .disjunction =>
            let (others, rest) ← separatedBy (word "or") (operand (found.level + 1)) rest
            some (ExpressionForm.disjunction (left :: others), rest)
          | .conjunction =>
            let (others, rest) ← separatedBy (word "and") (operand (found.level + 1)) rest
            some (.conjunction (left :: others), rest)
          | .comparison _ =>
            let (others, rest) ← severalTimes (compared operand) tokens
            some (.comparison left others, rest)
          | .arithmetic operator =>
            let (right, rest) ← operand (Connective.levelBehind operator) rest
            some (.binary operator left right, rest)
        operationsWithin operand line level within ⟨line, form⟩ rest

/-- Operands joined at least as tightly as a level says. Negation by word is weaker than all arithmetic, so
it has no place behind an arithmetic operator. -/
def operandWithin (nested : Nested) : (within : List Token) → (level : Nat) → Reader Expression
  | [], _, _ => none
  | _ :: within, level, tokens => do
    let line := lineOf tokens
    let signed (operator : UnaryOperator) (level : Nat) (rest : List Token) :
        Option (Expression × List Token) := do
      let (operand, rest) ← operandWithin nested within level rest
      return (⟨line, .unary operator operand⟩, rest)
    let (first, rest) ← match tokens with
      | ⟨.name "not", _⟩ :: rest =>
        if level ≤ Connective.negationLevel then signed .not Connective.negationLevel rest else none
      | ⟨.name "await", _⟩ :: rest =>
        (primary nested rest).map fun (operand, rest) => (⟨line, .awaited operand⟩, rest)
      | ⟨.mark text, _⟩ :: rest =>
        match UnaryOperator.ofMark? text with
        | some operator => signed operator Connective.signLevel rest
        | none => primary nested tokens
      | _ => primary nested tokens
    operationsWithin (operandWithin nested within) line level rest first rest

/-- Operands joined at least as tightly as a level says. -/
def operations (nested : Nested) (level : Nat) : Reader Expression := fun tokens =>
  operandWithin nested tokens level tokens

/-- How far one is in a list of parameters. -/
structure ParameterPhase where
  found : Parameters := ⟨[], [], none, [], none⟩
  hasSlash : Bool := false
  hasDefault : Bool := false
  isBehindStar : Bool := false
  needsName : Bool := false

namespace ParameterPhase

/-- How far one is behind one more parameter. -/
def adding (phase : ParameterPhase) (parameter : Parameter) : ParameterPhase :=
  let found := if phase.isBehindStar then
      { phase.found with byName := phase.found.byName ++ [parameter] }
    else { phase.found with regular := phase.found.regular ++ [parameter] }
  { phase with found, needsName := false, hasDefault := phase.hasDefault || parameter.default.isSome }

/-- How far one is behind the mark that makes all parameters so far ones by place alone. -/
def closingPlaces (phase : ParameterPhase) : ParameterPhase :=
  { phase with hasSlash := true, found := { phase.found with
      byPlace := phase.found.regular, regular := [] } }

end ParameterPhase

/-- A type behind a colon, where types can be given at all. -/
def typeBehind (read : Reader Expression) (isTyped : Bool) : Reader (Option Expression) := fun tokens =>
  if isTyped then behind (mark ":") read tokens else some (none, tokens)

/-- A parameter, and how far one is behind it. The one for mappings is the last, which `true` says. -/
def parameter (nested : Nested) (isTyped : Bool) (phase : ParameterPhase) :
    Reader (ParameterPhase × Bool) := fun tokens =>
  match mark "/" tokens, mark "**" tokens, mark "*" tokens with
  | some rest, _, _ =>
    if !phase.found.regular.isEmpty ∧ !phase.hasSlash ∧ !phase.isBehindStar then
      some ((phase.closingPlaces, false), rest)
    else none
  | none, some rest, _ => do
    if phase.needsName then none
    let line := lineOf rest
    let (name, rest) ← identifier rest
    let (type, rest) ← typeBehind (nested .whole) isTyped rest
    let found := { phase.found with mapping := some ⟨line, name, type, none⟩ }
    return (({ phase with found }, true), rest)
  | none, none, some rest =>
    if phase.isBehindStar then none
    else match identifier rest with
      | none =>
        (mark "," rest).map fun _ =>
          (({ phase with isBehindStar := true, needsName := true }, false), rest)
      | some (name, behind) => do
        let (type, behind) ← typeBehind (starredOr nested (nested .whole)) isTyped behind
        let found := { phase.found with others := some ⟨lineOf rest, name, type, none⟩ }
        return (({ phase with found, isBehindStar := true }, false), behind)
  | none, none, none => do
    let (name, rest) ← identifier tokens
    let (type, rest) ← typeBehind (nested .whole) isTyped rest
    let (default, rest) ← behind (mark "=") (nested .whole) rest
    if default.isNone && phase.hasDefault && !phase.isBehindStar then none
    else return ((phase.adding ⟨lineOf tokens, name, type, default⟩, false), rest)

def parametersWithin (nested : Nested) (isTyped : Bool) (close : String) :
    (within : List Token) → ParameterPhase → Reader Parameters
  | [], _, _ => none
  | _ :: within, phase, tokens =>
    match mark close tokens with
    | some rest => if phase.needsName then none else some (phase.found, rest)
    | none => do
      match ← parameter nested isTyped phase tokens with
      | ((phase, true), rest) => return (phase.found, ← mark close (optionally (mark ",") rest))
      | ((phase, false), rest) =>
        match mark "," rest with
        | some rest => parametersWithin nested isTyped close within phase rest
        | none => if phase.needsName then none else return (phase.found, ← mark close rest)

/-- Parameters up to a closing mark. -/
def parameters (nested : Nested) (isTyped : Bool) (close : String) : Reader Parameters := fun tokens =>
  parametersWithin nested isTyped close tokens {} tokens

/-- A function without a name, or operands with operators between them and possibly a condition. -/
def wholeExpression (nested : Nested) : Reader Expression := fun tokens =>
  let line := lineOf tokens
  match word "lambda" tokens with
  | some rest => do
    let (taken, rest) ← parameters nested false ":" rest
    let (body, rest) ← nested .whole rest
    return (⟨line, .function taken body⟩, rest)
  | none => do
    let (first, rest) ← operations nested 0 tokens
    match word "if" rest with
    | none => return (first, rest)
    | some rest => do
      let (condition, rest) ← operations nested 0 rest
      let (second, rest) ← nested .whole (← word "else" rest)
      return (⟨line, .choice condition first second⟩, rest)

def expressionWithin : (within : List Token) → Nested
  | [], _, _ => none
  | _ :: within, .primary, tokens => primary (expressionWithin within) tokens
  | _ :: within, .arithmetic, tokens =>
    operations (expressionWithin within) (Connective.comparisonLevel + 1) tokens
  | _ :: within, .logical, tokens => operations (expressionWithin within) 0 tokens
  | _ :: within, .whole, tokens => wholeExpression (expressionWithin within) tokens

/-- Expressions of a strength. Each level of nesting takes a token. -/
def expression : Nested := fun strength tokens => expressionWithin tokens strength tokens

end Grammar

end SelectionGen.Target
