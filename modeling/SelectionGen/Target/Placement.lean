import SelectionGen.Target.FeatureRequest
import SelectionGen.Target.NameUse
import SelectionGen.Target.Nesting
import SelectionGen.Text.Printable
import SelectionGen.Text.Split

/-! Where statements and expressions have their place: what leaves a function or a loop has to be in one, what
waits has to be in a function that can, and a star or a pattern has to leave something to the others.
The first fault is that of the part that is gone through first: values before the targets they are
assigned to, bodies before what is done with them. -/
namespace SelectionGen.Target

/-- What a block is run as. A function can wait for something, and it can give values to its caller while
it waits; then it gives none in the end. -/
inductive Scope
  | module
  | type
  | function (isAsync gives : Bool)
  | collection
deriving DecidableEq, Repr

/-- A statement around that a leaving statement has to go through. -/
inductive Frame
  | loop
  | ending (body : List Statement)
  | groupHandler
  | other

/-- Where a part of code stands. -/
structure Site where
  scope : Scope := .module
  frames : List Frame := []
  hasTextTypes : Bool := false
  requestsEnd : Nat := 0

/-- Checking goes on as long as nothing is wrong. -/
abbrev Check := Except CodeFault Unit

namespace Site

def isFunction (site : Site) : Bool :=
  match site.scope with
  | .function .. | .collection => true
  | _ => false

/-- Whether what waits for something can stand here. -/
def isAsync (site : Site) : Bool :=
  match site.scope with
  | .function isAsync _ => isAsync
  | _ => false

/-- Whether a function gives values while it waits. -/
def givesWaiting (site : Site) : Bool :=
  match site.scope with
  | .function _ gives => gives
  | _ => false

/-- How many statements can be around another one in a block. -/
def frameLimit : Nat := 20

/-- The place within a statement. -/
def within (site : Site) (frame : Frame) (line : Nat) : Except CodeFault Site :=
  if frameLimit ≤ site.frames.length then .error ⟨.blocksTooDeep, line⟩
  else .ok { site with frames := frame :: site.frames }

/-- The place in a new block. -/
def inside (site : Site) (scope : Scope) : Site := { site with scope, frames := [] }

end Site

namespace Expression

/-- The expressions that an expression consists of and that belong to the same block. -/
def parts (expression : Expression) : List Expression :=
  match expression.form with
  | .constant _ | .name _ => []
  | .formatted pieces => pieces.filterMap fun
    | .plain _ => none
    | .field value _ _ => some value
  | .member owner _ => [owner]
  | .index owner key => [owner, key]
  | .range first last step => first.toList ++ last.toList ++ step.toList
  | .call function arguments keywords => function :: arguments ++ keywords.map Keyword.value
  | .tuple elements | .list elements | .set elements => elements
  | .mapping entries => entries.flatMap fun
    | .pair key value => [key, value]
    | .all mapping => [mapping]
  | .unary _ operand | .starred operand | .awaited operand => [operand]
  | .binary _ left right => [left, right]
  | .conjunction operands | .disjunction operands => operands
  | .comparison first others => first :: others.map Compared.operand
  | .choice condition first second => [condition, first, second]
  | .function taken _ =>
    (taken.byPlace ++ taken.regular ++ taken.byName).filterMap Parameter.default
  | .named _ value => [value]
  | .yielded value => value.toList
  | .yieldedFrom source => [source]
  | .collected _ _ loops | .collectedEntries _ _ loops => (loops.take 1).map Loop.source

/-- Whether a part of the same block has a property, to at most the given depth. -/
def anyPart (p : Expression → Bool) : Nat → Expression → Bool
  | 0, _ => false
  | depth + 1, expression => p expression || expression.parts.any (anyPart p depth)

def isYield (expression : Expression) : Bool :=
  match expression.form with
  | .yielded _ | .yieldedFrom _ => true
  | _ => false

/-- The loops of an expression that collects, and what it collects, unless that is collected on demand. -/
def collection? (expression : Expression) : Option (List Expression × List Loop) :=
  match expression.form with
  | .collected .generator _ _ => none
  | .collected _ element loops => some ([element], loops)
  | .collectedEntries key value loops => some ([key, value], loops)
  | _ => none

/-- Whether an expression has to wait for something by itself: it says so, or it collects and has to wait
on the way. To at most the given depth. -/
def waits : Nat → Expression → Bool
  | 0, _ => false
  | depth + 1, expression =>
    match expression.form, expression.collection? with
    | .awaited _, _ => true
    | _, some (elements, loops) =>
      let inner := elements ++ loops.flatMap Loop.conditions ++ (loops.drop 1).map Loop.source
        ++ loops.map Loop.target
      loops.any Loop.isAsync || inner.any (anyPart (waits depth) depth)
    | _, none => false

end Expression

namespace Statement

/-- The expressions of a statement that belong to the same block. -/
def expressions (statement : Statement) : List Expression :=
  match statement.form with
  | .expression value => [value]
  | .assignment targets value => value :: targets
  | .update target _ value => [target, value]
  | .declaration target type value _ => target :: type :: value.toList
  | .deletion targets => targets
  | .result value => value.toList
  | .error value cause => value.toList ++ cause.toList
  | .assertion condition message => condition :: message.toList
  | .choice condition _ _ | .whileLoop condition _ _ => [condition]
  | .forLoop _ target source _ _ => [target, source]
  | .resources _ items _ => items.flatMap fun item => item.value :: item.target.toList
  | .attempt _ _ handlers _ _ => handlers.filterMap Handler.type
  | .selection subject cases => subject :: cases.filterMap Case.condition
  | .function _ _ taken _ decorators _ =>
    decorators ++ (taken.byPlace ++ taken.regular ++ taken.byName).filterMap Parameter.default
  | .type _ arguments keywords decorators _ => arguments ++ keywords.map Keyword.value ++ decorators
  | _ => []

/-- The statements within a statement that belong to the same block. -/
def statements (statement : Statement) : List Statement :=
  match statement.form with
  | .choice _ body otherwise | .whileLoop _ body otherwise | .forLoop _ _ _ body otherwise =>
    body ++ otherwise
  | .resources _ _ body => body
  | .attempt _ body handlers otherwise ending =>
    body ++ handlers.flatMap Handler.body ++ otherwise ++ ending
  | .selection _ cases => cases.flatMap Case.body
  | _ => []

/-- Whether a statement has an expression with a property, to at most the given depth. -/
def anyExpression (p : Expression → Bool) : Nat → Statement → Bool
  | 0, _ => false
  | depth + 1, statement =>
    statement.expressions.any (Expression.anyPart p depth)
      || statement.statements.any (anyExpression p depth)

end Statement

namespace Placement

def refuse (problem : CodeProblem) (line : Nat) : Except CodeFault α := .error ⟨problem, line⟩

/-- No value can be bound to the name of the constant. -/
def bound (name : String) (line : Nat) : Check :=
  if name = debugConstant then refuse .constantAssigned line else .ok ()

/-- What is done to an expression. -/
inductive Access
  | read
  | assign
  | delete
deriving DecidableEq, Repr

/-- The first keyword that occurs again, where it does. -/
def keywordsTwice? : List Keyword → Option CodeFault
  | [] => none
  | keyword :: rest =>
    match keyword.name with
    | none => keywordsTwice? rest
    | some name =>
      match rest.find? fun other => other.name == some name with
      | some other => some ⟨.keywordTwice name, other.line⟩
      | none => keywordsTwice? rest

/-- The keywords of a call on a line. -/
def keywords (line : Nat) : List Keyword → Check
  | [] => .ok ()
  | keyword :: rest => do
    keyword.name.toList.forM fun name => bound name line
    match keywordsTwice? (keyword :: rest), keyword.name with
    | some fault, some name =>
      if fault.problem = .keywordTwice name then .error fault else keywords line rest
    | _, _ => keywords line rest

/-- How many targets can stand in front of a starred one. -/
def starLimit : Nat := 256

/-- At most one of the targets of a sequence is starred, and not too far behind. -/
def starredTargets (line : Nat) (elements : List Expression) : Check :=
  let places := (elements.zipIdx.filter fun (element, _) => element.isStarred).map Prod.snd
  match places with
  | [] => .ok ()
  | [place] => if starLimit ≤ place then refuse .starredTooLate line else .ok ()
  | place :: _ => refuse (if starLimit ≤ place then .starredTooLate else .starredTwice) line

/-- An expression without the star in front. -/
def unstarred (expression : Expression) : Expression :=
  match expression.form with
  | .starred operand => operand
  | _ => expression

/-- The parameters of a function that begins on a line. -/
def parameters (line : Nat) (taken : Parameters) : Check :=
  (taken.byPlace ++ taken.regular ++ taken.others.toList ++ taken.byName
      ++ taken.mapping.toList).forM fun parameter => bound parameter.name line

def defaults (taken : Parameters) : List Expression :=
  (taken.byPlace ++ taken.regular ++ taken.byName).filterMap Parameter.default

/-- Checks an expression, to at most the given depth. -/
def expression : Nat → Site → Access → Expression → Check
  | 0, _, _, _ => .ok ()
  | depth + 1, site, access, ⟨line, form⟩ =>
    let read := expression depth site .read
    let readAll (parts : List Expression) : Check := parts.forM read
    let readElements (elements : List Expression) : Check :=
      elements.forM fun element => read (unstarred element)
    let collected (elements : List Expression) (loops : List Loop) : Check := do
      let inner := site.inside .collection
      let canWait := site.isAsync || site.scope = .collection
      if !canWait && Expression.waits depth ⟨line, form⟩ then refuse .asyncCollectionOutside line
      loops.zipIdx.forM fun (loop, index) => do
        if 0 < index then expression depth inner .read loop.source
        expression depth inner .assign loop.target
        loop.conditions.forM (expression depth inner .read)
      elements.forM (expression depth inner .read)
      (loops.take 1).forM fun loop => read loop.source
    match form with
    | .constant _ => .ok ()
    | .name name =>
      match access with
      | .read => .ok ()
      | .assign => bound name line
      | .delete => if name = debugConstant then refuse .constantDeleted line else .ok ()
    | .formatted pieces => pieces.forM fun
      | .plain _ => .ok ()
      | .field value _ format => do
        read value
        expression depth site .read ⟨line, .formatted format⟩
    | .member owner name => do
      read owner
      if access = .assign then bound name line
    | .index owner key => do read owner; read key
    | .range first last step => readAll (first.toList ++ last.toList ++ step.toList)
    | .call function arguments given => do
      keywords line given
      read function
      readElements arguments
      readAll (given.map Keyword.value)
    | .tuple elements | .list elements =>
      match access with
      | .read => readElements elements
      | .assign => do
        starredTargets line elements
        elements.forM fun element => expression depth site .assign (unstarred element)
      | .delete => elements.forM (expression depth site .delete)
    | .set elements => readElements elements
    | .mapping entries => entries.forM fun
      | .pair key value => do read key; read value
      | .all mapping => read mapping
    | .unary _ operand => read operand
    | .starred _ => refuse (if access = .assign then .starredTargetAlone else .starredAlone) line
    | .awaited operand => do
      match site.scope with
      | .module | .type => refuse .awaitOutside line
      | .function false _ => refuse .awaitOutsideAsync line
      | _ => read operand
    | .binary _ left right => do read left; read right
    | .conjunction operands | .disjunction operands => readAll operands
    | .comparison first others => readAll (first :: others.map Compared.operand)
    | .choice condition first second => readAll [condition, first, second]
    | .function taken body => do
      parameters line taken
      readAll (defaults taken)
      expression depth (site.inside (.function false false)) .read body
    | .named target value => do
      read value
      expression depth site .assign target
    | .yielded value => do
      if !site.isFunction then refuse .yieldOutside line
      readAll value.toList
    | .yieldedFrom source => do
      if !site.isFunction then refuse .yieldOutside line
      if site.isAsync then refuse .yieldFromInAsync line
      read source
    | .collected _ element loops => collected [element] loops
    | .collectedEntries key value loops => collected [key, value] loops

/-! Patterns. The names bound so far are handed on. -/

/-- What a pattern may be compared with as far as it is a constant: a number with its sign is one. -/
def constantOf? (value : Expression) : Option ExpressionForm :=
  match value.form with
  | .constant found => some (.constant found)
  | .unary _ ⟨_, .constant found⟩ => some (.unary .negate ⟨0, .constant found⟩)
  | .binary operator left right => some (.binary operator left right)
  | _ => none

/-- Whether a pattern matches anything and binds nothing. -/
def isWildcard (pattern : Pattern) : Bool :=
  match pattern.form with
  | .capture none none => true
  | _ => false

/-- Adds a name to those bound in a pattern. -/
def bindName (name : Option String) (line : Nat) (names : List String) :
    Except CodeFault (List String) :=
  match name with
  | none => .ok names
  | some name => do
    bound name line
    if names.contains name then refuse (.patternNameTwice name) line
    return names ++ [name]

/-- A constant as messages show it. -/
def shownConstant : Constant → String
  | .nothing => "None"
  | .truth value => if value then "True" else "False"
  | .ellipsis => "Ellipsis"
  | .whole value => toString value
  | .text value => Text.quoted value
  | _ => ""

/-- A constant key as messages show it. -/
def shownKey (key : Expression) : String :=
  match key.form with
  | .constant value => shownConstant value
  | .unary _ ⟨_, .constant value⟩ => "-" ++ shownConstant value
  | _ => ""

/-- A decimal number without zeros at its end. -/
def withoutZeros : Nat → (mantissa : Int) → (exponent : Int) → Int × Int
  | 0, mantissa, exponent => (mantissa, exponent)
  | steps + 1, mantissa, exponent =>
    if mantissa = 0 then (0, 0)
    else if mantissa % 10 = 0 then withoutZeros steps (mantissa / 10) (exponent + 1)
    else (mantissa, exponent)

/-- A number, in parts that are real and imaginary. -/
structure PlainNumber where
  real : Int × Int := (0, 0)
  imaginary : Int × Int := (0, 0)
deriving DecidableEq

/-- The number that a constant key is, which truth values are as well. -/
def numberOf? (key : Expression) : Option PlainNumber :=
  let decimal (sign : Int) (mantissa : Nat) (exponent : Int) : Int × Int :=
    withoutZeros (Nat.toDigits 10 mantissa).length (sign * mantissa) exponent
  let single (sign : Int) : Constant → Option PlainNumber
    | .truth value => some { real := (if value then 1 else 0, 0) }
    | .whole value => some { real := decimal sign value 0 }
    | .real mantissa exponent => some { real := decimal sign mantissa exponent }
    | .imaginary mantissa exponent => some { imaginary := decimal sign mantissa exponent }
    | _ => none
  let signed (key : Expression) (sign : Int) : Option PlainNumber :=
    match key.form with
    | .constant value => single sign value
    | .unary _ ⟨_, .constant value⟩ => single (-sign) value
    | _ => none
  match key.form with
  | .binary operator left right => do
    let left ← signed left 1
    let right ← signed right (if operator = .subtract then -1 else 1)
    return { left with imaginary := right.imaginary }
  | _ => signed key 1

/-- Whether two keys are the same constant. -/
def sameKey (a b : Expression) : Bool :=
  match numberOf? a, numberOf? b with
  | some x, some y => x == y
  | none, none =>
    match a.form, b.form with
    | .constant x, .constant y => x == y
    | _, _ => false
  | _, _ => false

/-- The keys of a mapping pattern on a line, given those before. -/
def patternKeys (line : Nat) (seen : List Expression) : List Expression → Check
  | [] => .ok ()
  | key :: rest =>
    match constantOf? key, key.form with
    | some _, _ =>
      if seen.any (sameKey key) then refuse (.keyTwice (shownKey key)) line
      else patternKeys line (key :: seen) rest
    | none, .member .. => patternKeys line seen rest
    | none, _ => refuse .keyNoLiteral line

/-- The first name of a member that occurs again. -/
def attributesOnce : List NamedPattern → Check
  | [] => .ok ()
  | member :: rest => do
    bound member.name member.pattern.line
    match rest.find? fun other => other.name == member.name with
    | some other => refuse (.attributeTwice member.name) other.pattern.line
    | none => attributesOnce rest

/-- Checks a pattern and gives the names bound so far. Unless it is the last chance, it must not match
everything. -/
def pattern : Nat → Site → (canMatchAll : Bool) → Pattern → List String →
    Except CodeFault (List String)
  | 0, _, _, _, names => .ok names
  | depth + 1, site, canMatchAll, ⟨line, form⟩, names =>
    let read := expression depth site .read
    let allOf (patterns : List Pattern) (names : List String) : Except CodeFault (List String) :=
      patterns.foldlM (fun names found => pattern depth site true found names) names
    match form with
    | .value value =>
      match constantOf? value, value.form with
      | some _, _ | none, .member .. => do read value; return names
      | none, _ => refuse .patternNoLiteral line
    | .constant _ => .ok names
    | .sequence patterns =>
      if 1 < (patterns.filter Pattern.isStarred).length then refuse .starredPatternTwice line
      else allOf patterns names
    | .mapping entries rest => do
      patternKeys line [] (entries.map KeyPattern.key)
      (entries.map KeyPattern.key).forM read
      bindName rest line (← allOf (entries.map KeyPattern.pattern) names)
    | .object type members named => do
      attributesOnce named
      read type
      allOf (members ++ named.map NamedPattern.pattern) names
    | .starred name => bindName name line names
    | .capture none none =>
      if canMatchAll then .ok names else refuse .unreachableBehindWildcard line
    | .capture none (some name) =>
      if canMatchAll then bindName (some name) line names
      else refuse (.unreachableBehindName name) line
    | .capture (some inner) name => do
      bindName name line (← pattern depth site canMatchAll inner names)
    | .alternatives patterns => do
      let last := patterns.length - 1
      let found ← patterns.zipIdx.foldlM (fun (found : Option (List String)) (inner, index) => do
        let own ← pattern depth site (canMatchAll && index == last) inner []
        match found with
        | none => return some own
        | some first =>
          if own.length = first.length && own.all first.contains then return some first
          else refuse .alternativesDiffer inner.line) none
      (found.getD []).foldlM (fun names name => do
        if names.contains name then refuse (.patternNameTwice name) line
        return names ++ [name]) names

/-- The frames from the loop on that a leaving statement goes on in or behind. What is done in the end of a
block around is done on the way. -/
def unwind (run : Site → List Statement → Check) (line : Nat) (toLoop hasValue : Bool) (site : Site) :
    List Frame → Except CodeFault Bool
  | [] => .ok false
  | frame :: outer =>
    match frame with
    | .groupHandler => refuse .leavesGroupHandler line
    | .loop => if toLoop then .ok true else unwind run line toLoop hasValue site outer
    | .ending body => do
      run { site with frames := if hasValue then .other :: outer else outer } body
      unwind run line toLoop hasValue site outer
    | .other => unwind run line toLoop hasValue site outer

def isConstant (value : Expression) : Bool :=
  match value.form with
  | .constant _ => true
  | _ => false

/-- The first statement that does anything, if its place is looked at before any name in it. -/
def placedAtOnce (body : List Statement) : List Statement :=
  let first := (body.dropWhile fun statement => match statement.form with
    | .pass => true
    | _ => false).take 1
  first.filter fun statement => match statement.form with
    | .result _ => true
    | .expression ⟨_, .awaited _⟩ | .expression ⟨_, .yielded _⟩ => true
    | .expression ⟨_, .yieldedFrom _⟩ => true
    | _ => false

/-- Checks a statement, to at most the given depth. -/
def statement : Nat → Site → Statement → Check
  | 0, _, _ => .ok ()
  | depth + 1, site, ⟨line, form⟩ =>
    let read := expression depth site .read
    let store := expression depth site .assign
    let readAll (parts : List Expression) : Check := parts.forM read
    let run (site : Site) (body : List Statement) : Check := body.forM (statement depth site)
    let isRunHere := site.scope = .module || site.scope = .type
    match form with
    | .expression value => if isConstant value then .ok () else read value
    | .assignment targets value => do
      read value
      targets.forM store
    | .update target _ value => do
      match target.form with
      | .member owner _ => read owner
      | .index owner key => do read owner; read key
      | _ => .ok ()
      read value
      match target.form with
      | .name name => bound name target.line
      | _ => .ok ()
    | .declaration target type value isSimple => do
      if let some value := value then
        read value
        store target
      match target.form with
      | .name name => do
        bound name line
        if isSimple && isRunHere && !site.hasTextTypes then read type
      | .member owner name => do
        bound name line
        if value.isNone then read owner
      | .index owner key =>
        if value.isNone then do
          read owner
          readAll (match key.form with
            | .tuple elements => elements
            | _ => [key])
      | _ => .ok ()
      if !isSimple && isRunHere && !site.hasTextTypes then read type
    | .deletion targets => targets.forM (expression depth site .delete)
    | .pass | .globalNames _ | .outerNames _ => .ok ()
    | .leaveLoop => do
      if !(← unwind run line true false site site.frames) then refuse .leavesNoLoop line
    | .continueLoop => do
      if !(← unwind run line true false site site.frames) then refuse .continuesNoLoop line
    | .result value => do
      if !site.isFunction then refuse .returnOutside line
      if value.isSome && site.givesWaiting then refuse .returnsFromGenerator line
      readAll value.toList
      let hasValue := value.any fun value => !isConstant value
      let _ ← unwind run line false hasValue site site.frames
    | .error value cause => readAll (value.toList ++ cause.toList)
    | .assertion condition message => readAll (condition :: message.toList)
    | .imports modules => modules.forM fun found =>
      bound (found.alias?.getD ((Text.pieces '.' found.name).headD "")) line
    | .importsFrom _ name names => do
      if name = some FeatureRequest.source && site.requestsEnd < line then refuse .lateFeature line
      (names.getD []).forM fun found => bound (found.alias?.getD found.name) line
    | .choice condition body otherwise => do
      read condition
      run site body
      run site otherwise
    | .whileLoop condition body otherwise => do
      let inner ← site.within .loop line
      expression depth inner .read condition
      run inner body
      run site otherwise
    | .forLoop isAsync target source body otherwise => do
      if isAsync && !site.isAsync then refuse (.asyncOutside "for") line
      if isAsync then read source
      let inner ← site.within .loop line
      if !isAsync then read source
      store target
      run inner body
      run site otherwise
    | .resources isAsync items body => do
      if isAsync && !site.isAsync then refuse (.asyncOutside "with") line
      let inner ← items.foldlM (fun (inner : Site) item => do
        read item.value
        let inner ← inner.within .other item.value.line
        item.target.toList.forM store
        return inner) site
      run inner body
    | .attempt isForGroups body handlers otherwise ending => do
      let outer ← if ending.isEmpty then .ok site else site.within (.ending ending) line
      if handlers.isEmpty then run outer body
      else
        run (← outer.within .other line) body
        if !isForGroups then run outer otherwise
        let handling ← outer.within (if isForGroups then .groupHandler else .other) line
        handlers.zipIdx.forM fun (handler, index) => do
          if handler.type.isNone && index + 1 < handlers.length then
            refuse .handlerBehindOthers handler.line
          readAll handler.type.toList
          let inner ← handling.within .other handler.line
          if handler.name == some debugConstant then run inner (placedAtOnce handler.body)
          handler.name.toList.forM fun name => bound name handler.line
          run inner handler.body
        if isForGroups then run outer otherwise
      run site ending
      if !ending.isEmpty then run (← site.within .other line) ending
    | .selection subject cases => do
      read subject
      let last := cases.length - 1
      cases.zipIdx.forM fun (found, index) => do
        if index < last || index = 0 || !isWildcard found.pattern then
          let canMatchAll := found.condition.isSome || index == last
          let _ ← pattern depth site canMatchAll found.pattern []
        readAll found.condition.toList
        run site found.body
    | .function isAsync name taken result decorators body => do
      parameters line taken
      readAll decorators
      readAll (defaults taken)
      if !site.hasTextTypes then
        readAll ((taken.regular ++ taken.byPlace).filterMap Parameter.type)
        readAll ((taken.others.toList.filterMap Parameter.type).map unstarred)
        readAll ((taken.byName ++ taken.mapping.toList).filterMap Parameter.type)
        readAll result.toList
      let any (p : Expression → Bool) : Bool := body.any (Statement.anyExpression p depth)
      let gives := any Expression.isYield && (isAsync || any (Expression.waits depth))
      run (site.inside (.function isAsync gives)) body
      bound name line
    | .type name arguments given decorators body => do
      readAll decorators
      run (site.inside .type) body
      keywords line given
      arguments.forM fun argument => read (unstarred argument)
      readAll (given.map Keyword.value)
      bound name line

end Placement

/-- What is out of place in code that begins with the given requests for features and is nested to at most
the given depth. -/
def checkPlaces (depth : Nat) (preamble : FeatureRequest.Preamble) (code : Code) : Check :=
  let site : Site :=
    { hasTextTypes := preamble.names.contains FeatureRequest.textTypes
      requestsEnd := preamble.lastLine }
  code.forM (Placement.statement ((Site.frameLimit + 2) * depth) site)

/-! What is checked before code is run: the features it asks for, then its names, then its places. -/

/-- The fault that keeps code from being run, if there is one. -/
def checkCode (code : Code) : Except CodeFault Unit := do
  let depth := 2 * codeDepth .ofTree code + 2
  let preamble ← FeatureRequest.preamble code
  checkNames depth preamble.names code
  checkPlaces depth preamble code

end SelectionGen.Target
