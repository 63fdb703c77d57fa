import SelectionGen.Evaluation.Application
import SelectionGen.Number.FloatingPoint

/-! The values of expressions. Operands are worked out from left to right, and only as far as they decide the value
where that is what an operator says. -/
namespace SelectionGen.Evaluation

open Target

/-- The value that is written out. -/
def constantValue (constant : Constant) : Value :=
  match constant with
  | .nothing => .nothing
  | .truth value => .truth value
  | .ellipsis => .ellipsis
  | .whole value => .whole value
  | .real mantissa exponent => .real (Number.realOfDecimal false mantissa exponent)
  | .imaginary mantissa exponent => .complex 0.0 (Number.realOfDecimal false mantissa exponent)
  | .text value => .text value
  | .bytes values => .bytes values

/-- The values of expressions, those of starred ones one by one. -/
def evaluateAll (scope : Scope) (elements : List Expression) : Evaluated (List Value) := do
  let found ← elements.mapM fun element => do
    match element.form with
    | .starred inner =>
      let value ← evaluate scope inner
      tryCatch (elementsOf value) fun interruption => do
        match interruption with
        | .raised exception =>
          let isSource := (← definedMember? value "__iter__").isSome
            || (← definedMember? value "__getitem__").isSome || (← sourceOfCore? (← core value)).isSome
          if (← isFailureOf exception "TypeError") && !isSource then
            refuse ("Value after * must be an iterable, not " ++ (← typeName value))
          else throw interruption
        | other => throw other
    | _ => return [← evaluate scope element]
  return found.flatten

/-- The entries of a mapping that is written out. -/
def evaluateEntries (scope : Scope) (written : List Entry) : Evaluated (List (Value × Value)) :=
  written.foldlM (fun found entry => do
    match entry with
    | .pair key value =>
      let key ← evaluate scope key
      let value ← evaluate scope value
      checkKey key
      return Value.putInto key value found
    | .all mapping =>
      let value ← evaluate scope mapping
      if ← isMapping (← core value) then return merged found (← entriesOf value)
      else
        match ← memberIfAny? value "keys" with
        | some _ => return merged found (← entriesOf value)
        | none => refuse ("'" ++ (← typeName value) ++ "' object is not a mapping")) []

mutual

/-- The text of the pieces of a formatted literal. -/
def formattedText (scope : Scope) : List Piece → Evaluated String
  | [] => return ""
  | piece :: rest => do
    let first ← pieceText scope piece
    return first ++ (← formattedText scope rest)

/-- The text of a piece. -/
def pieceText (scope : Scope) : Piece → Evaluated String
  | .plain text => return text
  | .field value conversion specifier => do
    let found ← evaluate scope value
    let shown ← Template.converted found conversion
    format shown (← formattedText scope specifier)

end

/-- The first operand that decides, or the last one. -/
def decidedBy (scope : Scope) (deciding : Bool) : List Expression → Evaluated Value
  | [] => return .nothing
  | [last] => evaluate scope last
  | operand :: rest => do
    let value ← evaluate scope operand
    if (← truthOf value) == deciding then return value else decidedBy scope deciding rest

/-- What a comparison says about two values. -/
def comparedBy (comparison : Comparison) (a b : Value) : Evaluated Value := do
  match comparison with
  | .identical => return .truth (a.isIdentical b)
  | .distinct => return .truth (!a.isIdentical b)
  | .inside => return .truth (← isIn a b)
  | .outside => return .truth (!(← isIn a b))
  | .equal | .different => if isForeign a || isForeign b then giveUp else compare comparison a b
  | _ => if isForeign a || isForeign b then giveUp else compare comparison a b

/-- Comparisons that follow one another, up to the first one that does not hold. -/
def comparedInTurn (scope : Scope) (first : Value) : List Compared → Evaluated Value
  | [] => return first
  | [last] => do comparedBy last.comparison first (← evaluate scope last.operand)
  | next :: rest => do
    let value ← evaluate scope next.operand
    let answer ← comparedBy next.comparison first value
    if ← truthOf answer then comparedInTurn scope value rest else return answer

/-- How many values a generator gives before it is stopped. -/
def givingLimit : Nat := 10000

/-- Gives a value to who asked for it. -/
def give (value : Value) : Evaluated Unit := do
  let memory ← get
  match memory.given with
  | [] => giveUp
  | given :: rest =>
    set { memory with given := (value :: given) :: rest }
    if givingLimit < given.length then throw .enough

/-- Gives all values of a source, and what a generator says at its end. -/
def giveAll (value : Value) : Evaluated Value := do
  let source ← sourceOf value
  match source, ← cellOf? source with
  | .cell id, some (.generator _) =>
    repeatUntil do
      match ← cell? id with
      | some (.generator found) =>
        match ← advance id found with
        | .ok next => give next; return none
        | .error last => return some last
      | _ => giveUp
  | _, _ =>
    let _ ← forEach source fun next => do give next; return true
    return .nothing

/-- The value of an expression, whose parts are worked out in turn. -/
def valueOf (scope : Scope) (expression : Expression) : Evaluated Value := do
  match expression.form with
  | .constant value => return constantValue value
  | .name name => valueOfName scope name
  | .formatted pieces => return .text (← formattedText scope pieces)
  | .member owner name => memberOf (← evaluate scope owner) (scope.kept name)
  | .index owner key =>
    let owner ← evaluate scope owner
    elementOf owner (← evaluate scope key)
  | .range first last step =>
    let bound (part : Option Expression) : Evaluated Value :=
      match part with
      | some part => evaluate scope part
      | none => return .nothing
    return .slice (← bound first) (← bound last) (← bound step)
  | .call function arguments keywords => applied scope function arguments keywords
  | .tuple elements => return .tuple (← evaluateAll scope elements)
  | .list elements => newList (← evaluateAll scope elements)
  | .set elements => newSet false (← evaluateAll scope elements)
  | .mapping entries => newMapping (← evaluateEntries scope entries)
  | .unary operator operand => operateOne operator (← evaluate scope operand)
  | .binary operator left right =>
    let first ← evaluate scope left
    operate operator first (← evaluate scope right)
  | .conjunction operands => decidedBy scope false operands
  | .disjunction operands => decidedBy scope true operands
  | .comparison first others => comparedInTurn scope (← evaluate scope first) others
  | .choice condition first second =>
    if ← truthOf (← evaluate scope condition) then evaluate scope first else evaluate scope second
  | .function parameters body =>
    newFunction scope false "<lambda>" parameters none [⟨body.line, .result (some body)⟩]
  | .named target value =>
    let found ← evaluate scope value
    assign (scope.binding 100) target found
    return found
  | .starred _ => giveUp
  | .awaited _ => giveUp
  | .yielded value =>
    let found ← match value with
      | some value => evaluate scope value
      | none => pure .nothing
    give found
    return .nothing
  | .yieldedFrom source => giveAll (← evaluate scope source)
  | .collected collection element loops =>
    if loops.any Loop.isAsync && collection != .generator then giveUp
    match collection with
    | .list => newList (← collected scope loops fun inner => evaluate inner element)
    | .set => newSet false (← collected scope loops fun inner => do
        let value ← evaluate inner element
        checkKey value
        return value)
    | .generator => newLoopGenerator scope expression.line element loops
  | .collectedEntries key value loops =>
    let pairs ← collected scope loops fun inner => do
      let key ← evaluate inner key
      let value ← evaluate inner value
      checkKey key
      return .tuple [key, value]
    newMapping (merged [] (pairs.filterMap fun
      | .tuple [key, value] => some (key, value)
      | _ => none))

end SelectionGen.Evaluation
