import SelectionGen.Target.Grammar.Expression

/-! Patterns that values are matched against. A name alone is bound to the value, except for the one that
stands for anything; with dots it is a value to compare with, and before brackets a class. -/
namespace SelectionGen.Target
namespace Grammar

/-- The name that matches anything and is not bound. -/
def wildcard : String := "_"

/-- What makes a name more than one to bind. -/
def continuesName (tokens : List Token) : Bool :=
  ["." , "(", "="].any fun text => startsWith text tokens

/-- A name that a value is bound to. -/
def captured : Reader String := fun tokens => do
  let (name, rest) ← identifier tokens
  if name = wildcard || continuesName rest then none else return (name, rest)

/-- A name that a value is bound to, or the one for anything. -/
def capturedOrAny : Reader (Option String) := fun tokens =>
  match word wildcard tokens with
  | some rest => some (none, rest)
  | none => (captured tokens).map fun (name, rest) => (some name, rest)

/-- A number, possibly with a sign. -/
def signedNumber : Reader Expression := fun tokens =>
  match tokens with
  | ⟨.mark "-", line⟩ :: ⟨.number value, numberLine⟩ :: rest =>
    some (⟨line, .unary .negate ⟨numberLine, .constant value⟩⟩, rest)
  | ⟨.number value, line⟩ :: rest => some (⟨line, .constant value⟩, rest)
  | _ => none

/-- Whether an expression is a number with an imaginary part alone. -/
def isImaginary (expression : Expression) : Bool :=
  match expression.form with
  | .constant (.imaginary ..) | .unary _ ⟨_, .constant (.imaginary ..)⟩ => true
  | _ => false

/-- A number, negated or not, or the sum or difference of a number and an imaginary one. -/
def numberPattern : Reader Expression := fun tokens => do
  let (first, rest) ← signedNumber tokens
  let operator? := if startsWith "+" rest then some BinaryOperator.add
    else if startsWith "-" rest then some .subtract else none
  match operator?, rest.drop 1 with
  | none, _ => return (first, rest)
  | some operator, ⟨.number (.imaginary mantissa exponent), line⟩ :: rest =>
    if isImaginary first then none
    else
      let second := ⟨line, .constant (.imaginary mantissa exponent)⟩
      return (⟨lineOf tokens, .binary operator first second⟩, rest)
  | some _, _ => none

/-- A value that is written out. -/
def literalPattern : Reader Expression := fun tokens =>
  match tokens with
  | ⟨.name text, line⟩ :: rest => (constant? text).map fun value => (⟨line, .constant value⟩, rest)
  | ⟨.literal _, _⟩ :: _ | ⟨.formatted, _⟩ :: _ => expressionOf (literals expression) tokens
  | _ => numberPattern tokens

/-- A name and the members behind it. -/
def memberPath (line : Nat) (names : List String) : Option Expression :=
  match names with
  | [] => none
  | first :: others =>
    some (others.foldl (fun owner name => ⟨line, .member owner name⟩) ⟨line, .name first⟩)

/-- Names with at least one dot between them. -/
def memberName : Reader Expression := fun tokens =>
  match tokens with
  | _ :: ⟨.mark ".", _⟩ :: _ => do
    let (names, rest) ← dottedNames tokens
    return (← memberPath (lineOf tokens) names, rest)
  | _ => none

/-- What a value that is written out matches. -/
def valuePattern (value : Expression) : PatternForm :=
  match value.form with
  | .constant .nothing => .constant .nothing
  | .constant (.truth found) => .constant (.truth found)
  | _ => .value value

/-- What an element of a sequence matches: a pattern, or with a star all elements that are left. -/
def patternElement (pattern : Reader Pattern) : Reader Pattern := fun tokens =>
  match mark "*" tokens with
  | some rest => do
    let (name, rest) ← capturedOrAny rest
    return (⟨lineOf tokens, .starred name⟩, rest)
  | none => pattern tokens

/-- Patterns behind a bracket on a line, up to the closing one. In round brackets, one alone is no
sequence. -/
def patternsUntil (pattern : Reader Pattern) (close : String) (line : Nat) : Reader Pattern :=
  fun tokens =>
    match mark close tokens with
    | some rest => some (⟨line, .sequence []⟩, rest)
    | none => do
      let (elements, rest) ← listed (patternElement pattern) tokens
      let rest ← mark close rest
      match decide (close = ")"), elements.single? with
      | true, some found => if found.isStarred then none else return (found, rest)
      | _, _ => return (⟨line, .sequence elements.items⟩, rest)

/-- A key and the pattern of its value. -/
def entryPattern (pattern : Reader Pattern) : Reader KeyPattern := fun tokens => do
  let (key, rest) ← (literalPattern tokens).or (memberName tokens)
  let (found, rest) ← pattern (← mark ":" rest)
  return (⟨key, found⟩, rest)

/-- Entries up to a closing bracket. The entries left over come last. -/
def entryPatternsWithin (pattern : Reader Pattern) :
    (within : List Token) → Reader (List KeyPattern × Option String)
  | [], _ => none
  | _ :: within, tokens =>
    match mark "\x7d" tokens, mark "**" tokens with
    | some rest, _ => some (([], none), rest)
    | none, some rest => do
      let (name, rest) ← captured rest
      return (([], some name), ← mark "\x7d" (optionally (mark ",") rest))
    | none, none => do
      let (first, rest) ← entryPattern pattern tokens
      match mark "," rest with
      | some rest =>
        let ((others, name), rest) ← entryPatternsWithin pattern within rest
        return ((first :: others, name), rest)
      | none => return (([first], none), ← mark "\x7d" rest)

/-- The patterns for the members of an object up to a closing bracket: those by place, then those by
name. -/
def memberPatternsWithin (pattern : Reader Pattern) :
    (within : List Token) → (byName : Bool) → Reader (List Pattern × List NamedPattern)
  | [], _, _ => none
  | _ :: within, byName, tokens =>
    match mark ")" tokens with
    | some rest => some (([], []), rest)
    | none => do
      let name? := (keywordName tokens).map Prod.fst
      if byName && name?.isNone then none
      let (found, rest) ← pattern (if name?.isSome then tokens.drop 2 else tokens)
      let ((places, names), rest) ← match mark "," rest with
        | some rest => memberPatternsWithin pattern within name?.isSome rest
        | none => do some (([], []), ← mark ")" rest)
      return (match name? with
        | some name => ((places, ⟨name, found⟩ :: names), rest)
        | none => ((found :: places, names), rest))

/-- A name: anything, something to bind, a value to compare with, or a class with its members. -/
def namePattern (pattern : Reader Pattern) : Reader PatternForm := fun tokens =>
  match word wildcard tokens with
  | some rest => some (.capture none none, rest)
  | none => do
    let (names, rest) ← dottedNames tokens
    let value ← memberPath (lineOf tokens) names
    match mark "(" rest with
    | some members =>
      let ((places, named), rest) ← memberPatternsWithin pattern members false members
      return (.object value places named, rest)
    | none =>
      if continuesName rest then none
      else return (if names.length = 1 then .capture none names.head? else .value value, rest)

/-- A pattern that holds together without brackets around it. -/
def closedPattern (pattern : Reader Pattern) : Reader Pattern := fun tokens =>
  match literalPattern tokens, tokens with
  | some (value, rest), _ => some (⟨lineOf tokens, valuePattern value⟩, rest)
  | none, ⟨.mark "(", line⟩ :: rest => patternsUntil pattern ")" line rest
  | none, ⟨.mark "[", line⟩ :: rest => patternsUntil pattern "]" line rest
  | none, ⟨.mark "\x7b", line⟩ :: rest => do
    let ((entries, name), rest) ← entryPatternsWithin pattern rest rest
    return (⟨line, .mapping entries name⟩, rest)
  | none, _ => (namePattern pattern tokens).map fun (form, rest) => (⟨lineOf tokens, form⟩, rest)

/-- Alternatives, possibly bound to a name as a whole. -/
def patternWithin : (within : List Token) → Reader Pattern
  | [], _ => none
  | _ :: within, tokens => do
    let line := lineOf tokens
    let (patterns, rest) ← separatedBy (mark "|") (closedPattern (patternWithin within)) tokens
    let found : Pattern := match patterns with
      | [single] => single
      | _ => ⟨line, .alternatives patterns⟩
    match word "as" rest with
    | some rest =>
      let (name, rest) ← captured rest
      return (⟨line, .capture (some found) (some name)⟩, rest)
    | none => return (found, rest)

/-- What a case matches: a pattern, or a sequence of them without brackets. -/
def casePattern : Reader Pattern := fun tokens => do
  let (elements, rest) ← listed (patternElement (patternWithin tokens)) tokens
  match elements.single? with
  | some found => if found.isStarred then none else return (found, rest)
  | none => return (⟨lineOf tokens, .sequence elements.items⟩, rest)

end Grammar

end SelectionGen.Target
