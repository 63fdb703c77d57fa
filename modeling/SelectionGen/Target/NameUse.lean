import SelectionGen.Target.FeatureRequest
import SelectionGen.Text.Split

/-! How code uses names, block by block: modules, classes, functions and loops within expressions. Going
through the code gives the marks of each name in each block; what the marks of one block contradict is
met on the way, what those of an outer block contradict is met afterwards, in the order of the blocks. -/
namespace SelectionGen.Target

/-! Names that are private to a class. -/

/-- Whether names of this form are private to the class they are used in. -/
def isPrivateName (name : String) : Bool :=
  Text.beginsWith "__" name && !Text.endsWith "__" name && !name.toList.contains '.'

/-- The name that reaches a name used in a class from outside. -/
def outerName (className name : String) : String :=
  let stripped := className.toList.dropWhile fun c => c == '_'
  if isPrivateName name && !stripped.isEmpty then String.ofList ('_' :: stripped) ++ name else name

/-- A name that is not private is reached as it is. -/
theorem outerName_of_visible {className name : String} (visible : isPrivateName name = false) :
    outerName className name = name := by
  rw [outerName, visible]
  rfl

/-! Marks of names. -/

/-- What is known of a name in a block. -/
structure NameMarks where
  ofModule : Bool := false
  ofOuter : Bool := false
  isParameter : Bool := false
  isAssigned : Bool := false
  isUsed : Bool := false
  hasType : Bool := false
  isImported : Bool := false
  isLoopVariable : Bool := false
deriving DecidableEq, Repr

namespace NameMarks

def both (a b : NameMarks) : NameMarks where
  ofModule := a.ofModule || b.ofModule
  ofOuter := a.ofOuter || b.ofOuter
  isParameter := a.isParameter || b.isParameter
  isAssigned := a.isAssigned || b.isAssigned
  isUsed := a.isUsed || b.isUsed
  hasType := a.hasType || b.hasType
  isImported := a.isImported || b.isImported
  isLoopVariable := a.isLoopVariable || b.isLoopVariable

/-- Whether the block binds the name itself. -/
def isBound (marks : NameMarks) : Bool := marks.isParameter || marks.isAssigned || marks.isImported

end NameMarks

inductive BlockKind
  | module
  | function
  | type
  | notes
deriving DecidableEq, Repr

/-- A block with the names in it, the lines of its declarations, whether it gives values while it runs, and the
blocks inside. While it is gone through it also tells whether this is the source of a loop or its target. -/
structure NameBlock where
  kind : BlockKind
  collection : Option CollectionKind := none
  names : List (String × NameMarks) := []
  declarations : List (String × Nat) := []
  yields : Bool := false
  isSource : Bool := false
  isTarget : Bool := false
  inner : List NameBlock := []

namespace NameBlock

def marks (block : NameBlock) (name : String) : NameMarks := (block.names.lookup name).getD {}

/-- The block with marks added to a name. -/
def marking (block : NameBlock) (name : String) (marks : NameMarks) : NameBlock :=
  if block.names.any fun (known, _) => known == name then
    { block with names := block.names.map fun (known, old) =>
        if known = name then (known, old.both marks) else (known, old) }
  else { block with names := block.names ++ [(name, marks)] }

/-- Adds marks to a name that occurs on a line. -/
def mark (block : NameBlock) (name shown : String) (marks : NameMarks) (line : Nat) :
    Except CodeFault NameBlock :=
  let old := block.marks name
  if marks.isParameter && old.isParameter then .error ⟨.parameterTwice shown, line⟩
  else if block.isTarget then
    let all := old.both marks
    if all.ofModule || all.ofOuter then .error ⟨.loopsOverBoundName shown, line⟩
    else .ok (block.marking name { marks with isLoopVariable := true })
  else .ok (block.marking name marks)

def declaring (block : NameBlock) (name : String) (line : Nat) : NameBlock :=
  { block with declarations := block.declarations ++ [(name, line)] }

end NameBlock

/-- Where one is in code: the block, the blocks around it, and the class that names are private to. -/
structure Place where
  block : NameBlock
  outer : List NameBlock := []
  className : Option String := none
  hasTextTypes : Bool := false

/-- Going through code. -/
abbrev Survey := StateT Place (Except CodeFault)

namespace Survey

def privateName (name : String) : Survey String := do
  return ((← get).className.map fun owner => outerName owner name).getD name

def refuse (problem : CodeProblem) (line : Nat) : Survey α := throw ⟨problem, line⟩

def modifyBlock (change : NameBlock → NameBlock) : Survey Unit :=
  modify fun place => { place with block := change place.block }

/-- Adds marks to a name in the block one is in. A name of the module is marked as such there as well. -/
def mark (name : String) (marks : NameMarks) (line : Nat) : Survey Unit := do
  let hidden ← privateName name
  let place ← get
  let block ← place.block.mark hidden name marks line
  let outer := match marks.ofModule, place.outer.reverse with
    | true, outermost :: others =>
      (outermost.marking hidden { ofModule := true } :: others).reverse
    | _, _ => place.outer
  set { place with block, outer }

def assign (name : String) (line : Nat) : Survey Unit := mark name { isAssigned := true } line

/-- Goes through a block of its own. -/
def inBlock (kind : BlockKind) (collection : Option CollectionKind) (through : Survey Unit) :
    Survey Unit := do
  let place ← get
  set { place with
    block := { kind, collection, isSource := place.block.isSource }
    outer := place.block :: place.outer }
  through
  let found := (← get).block
  match (← get).outer with
  | [] => return
  | parent :: outer =>
    let parent := if kind = .notes then parent else { parent with inner := parent.inner ++ [found] }
    modify fun place => { place with block := parent, outer }

/-- Goes through the class that names are private to. -/
def inClass (name : String) (through : Survey Unit) : Survey Unit := do
  let old := (← get).className
  modify fun place => { place with className := some name }
  through
  modify fun place => { place with className := old }

/-- Goes through the source of a loop within an expression. -/
def inSource (through : Survey Unit) : Survey Unit := do
  let old := (← get).block.isSource
  modifyBlock fun block => { block with isSource := true }
  through
  modifyBlock fun block => { block with isSource := old }

/-- Goes through the target of a loop within an expression. -/
def inTarget (through : Survey Unit) : Survey Unit := do
  modifyBlock fun block => { block with isTarget := true }
  through
  modifyBlock fun block => { block with isTarget := false }

/-- What is bound inside a type that is left unread would never happen. -/
def notInType (description : String) (line : Nat) : Survey Unit := do
  if (← get).block.kind = .notes then refuse (.notInType description) line

/-- Declares that a name belongs to another block. -/
def declare (declaration : Declaration) (name : String) (line : Nat) : Survey Unit := do
  let hidden ← privateName name
  let marks := (← get).block.marks hidden
  if marks.isParameter then refuse (.declaredParameter name declaration) line
  if marks.isUsed then refuse (.declaredAfterUse name declaration) line
  if marks.hasType then refuse (.declaredWithType name declaration) line
  if marks.isAssigned then refuse (.declaredAfterAssignment name declaration) line
  match declaration with
  | .ofModule => mark name { ofModule := true } line
  | .ofOuter => mark name { ofOuter := true } line
  modifyBlock fun block => block.declaring hidden line

/-- Finds the block that a name bound in a loop within an expression belongs to, from the innermost outer
block on. The blocks in front of it are given back with it changed. -/
def ownerOfBound (name : String) (line : Nat) :
    List NameBlock → Except CodeFault (Option Declaration × List NameBlock)
  | [] => .ok (none, [])
  | block :: outer =>
    if block.collection.isSome then
      if (block.marks name).isLoopVariable then .error ⟨.bindsLoopVariable name, line⟩
      else (ownerOfBound name line outer).map fun (found, outer) => (found, block :: outer)
    else match block.kind with
      | .function =>
        let declaration := if (block.marks name).ofModule then Declaration.ofModule else .ofOuter
        (block.mark name name { isAssigned := true } line).map fun block =>
          (some declaration, block :: outer)
      | .module =>
        (block.mark name name { ofModule := true } line).map fun block =>
          (some .ofModule, block :: outer)
      | .type => .error ⟨.bindsInClassLoop, line⟩
      | .notes => (ownerOfBound name line outer).map fun (found, outer) => (found, block :: outer)

/-- Lets a name that is bound in a loop within an expression belong to the block around it. -/
def bindOutside (name : String) (line : Nat) : Survey Unit := do
  let hidden ← privateName name
  let place ← get
  if (place.block.marks hidden).isLoopVariable then refuse (.bindsLoopVariable name) line
  let (found, outer) ← ownerOfBound hidden line place.outer
  modify fun place => { place with outer }
  match found with
  | none => return
  | some .ofModule => mark name { ofModule := true } line
  | some .ofOuter => mark name { ofOuter := true } line
  modifyBlock fun block => block.declaring hidden line

/-- The name that a class finds itself under in its functions. -/
def ownClassName : String := "__class__"

/-- Whether expressions are read, or assigned to. -/
inductive Access
  | read
  | assign
deriving DecidableEq, Repr

/-- Marks that the block gives values. A loop within an expression cannot give anything to the caller of its
block. -/
def yieldsHere (line : Nat) : Survey Unit := do
  modifyBlock fun block => { block with yields := true }
  match (← get).block.collection with
  | some kind => refuse (.yieldsInside kind) line
  | none => return

/-- The values that stand for arguments that are not given. -/
def defaults (taken : Parameters) : List Expression :=
  (taken.byPlace ++ taken.regular ++ taken.byName).filterMap Parameter.default

/-- The names that a function takes. -/
def parameters (taken : Parameters) : Survey Unit :=
  (taken.byPlace ++ taken.regular ++ taken.byName ++ taken.others.toList
      ++ taken.mapping.toList).forM fun parameter =>
    mark parameter.name { isParameter := true } parameter.line

mutual

/-- Goes through an expression, to at most the given depth. -/
def expression : Nat → Access → Expression → Survey Unit
  | 0, _, _ => return
  | depth + 1, access, ⟨line, form⟩ => do
    let read := expression depth .read
    let readAll (parts : List Expression) : Survey Unit := parts.forM read
    match form with
    | .constant _ => return
    | .name name =>
      match access with
      | .assign => assign name line
      | .read => do
        if name != debugConstant then mark name { isUsed := true } line
        if name = "super" && (← get).block.kind = .function then
          mark ownClassName { isUsed := true } line
    | .formatted found => pieces depth found
    | .member owner _ => read owner
    | .index owner key => do read owner; read key
    | .range first last step => readAll (first.toList ++ last.toList ++ step.toList)
    | .call function arguments keywords => do
      read function
      readAll arguments
      readAll (keywords.map Keyword.value)
    | .tuple elements | .list elements => elements.forM (expression depth access)
    | .set elements => readAll elements
    | .mapping entries => do
      readAll (entries.filterMap fun
        | .pair key _ => some key
        | .all _ => none)
      readAll (entries.map fun
        | .pair _ value => value
        | .all mapping => mapping)
    | .unary _ operand => read operand
    | .starred operand => expression depth access operand
    | .awaited operand => do
      notInType "await expression" line
      read operand
    | .binary _ left right => do read left; read right
    | .conjunction operands | .disjunction operands => readAll operands
    | .comparison first others => readAll (first :: others.map Compared.operand)
    | .choice condition first second => readAll [condition, first, second]
    | .function taken body => do
      readAll (defaults taken)
      inBlock .function none do
        parameters taken
        read body
    | .named target value => do
      notInType "named expression" line
      let block := (← get).block
      if block.isSource then refuse .bindsInLoopSource line
      if block.collection.isSome then
        match target.form with
        | .name name => bindOutside name target.line
        | _ => return
      read value
      expression depth .assign target
    | .yielded value => do
      notInType "yield expression" line
      readAll value.toList
      yieldsHere line
    | .yieldedFrom source => do
      notInType "yield expression" line
      read source
      yieldsHere line
    | .collected collection element loops =>
      let kind := match collection with
        | .list => CollectionKind.list
        | .set => .set
        | .generator => .generator
      collectedIn depth kind [element] loops
    | .collectedEntries key value loops => collectedIn depth .mapping [value, key] loops

/-- Goes through the pieces of a formatted literal. -/
def pieces : Nat → List Piece → Survey Unit
  | 0, _ => return
  | depth + 1, found => found.forM fun
    | .plain _ => return
    | .field value _ format => do
      expression depth .read value
      pieces depth format

/-- Goes through loops within an expression and what they collect. The first source belongs to the block
around. -/
def collectedIn : Nat → CollectionKind → List Expression → List Loop → Survey Unit
  | 0, _, _, _ => return
  | depth + 1, kind, elements, loops => do
    let read := expression depth .read
    inSource ((loops.take 1).forM fun loop => read loop.source)
    inBlock .function (some kind) do
      (loops.take 1).forM fun loop => do
        inTarget (expression depth .assign loop.target)
        loop.conditions.forM read
      (loops.drop 1).forM fun loop => do
        inTarget (expression depth .assign loop.target)
        inSource (read loop.source)
        loop.conditions.forM read
      elements.forM read

end

/-- Goes through something that belongs to types. -/
def inNotes (through : Survey Unit) : Survey Unit := do
  if (← get).hasTextTypes then inBlock .notes none through else through

/-- The types of parameters. -/
def parameterTypes (taken : Parameters) : List Expression :=
  (taken.byPlace ++ taken.regular ++ taken.others.toList ++ taken.mapping.toList
      ++ taken.byName).filterMap Parameter.type

/-- Goes through a pattern, to at most the given depth. -/
def pattern : Nat → Pattern → Survey Unit
  | 0, _ => return
  | depth + 1, ⟨line, form⟩ => do
    let read := expression depth .read
    let bind (name : Option String) : Survey Unit := name.toList.forM fun name => assign name line
    match form with
    | .value value => read value
    | .constant _ => return
    | .sequence patterns | .alternatives patterns => patterns.forM (pattern depth)
    | .mapping entries rest => do
      entries.forM fun entry => read entry.key
      entries.forM fun entry => pattern depth entry.pattern
      bind rest
    | .object type members named => do
      read type
      members.forM (pattern depth)
      named.forM fun member => pattern depth member.pattern
    | .starred name => bind name
    | .capture inner name => do
      inner.toList.forM (pattern depth)
      bind name

/-- The name that an import binds: the first part of a name with dots, unless there is another one. -/
def boundBy (imported : ImportedName) : String :=
  imported.alias?.getD ((Text.pieces '.' imported.name).headD "")

/-- Goes through a statement, to at most the given depth. -/
def statement : Nat → Statement → Survey Unit
  | 0, _ => return
  | depth + 1, ⟨line, form⟩ => do
    let read := expression depth .read
    let store := expression depth .assign
    let readAll (parts : List Expression) : Survey Unit := parts.forM read
    let run (body : List Statement) : Survey Unit := body.forM (statement depth)
    match form with
    | .expression value => read value
    | .assignment targets value => do
      targets.forM store
      read value
    | .update target _ value => do
      store target
      read value
    | .declaration target type value isSimple => do
      match target.form with
      | .name name =>
        let place ← get
        let marks := place.block.marks (← privateName name)
        if (marks.ofModule || marks.ofOuter) && place.block.kind != .module && isSimple then
          refuse (.declaredWithType name (if marks.ofModule then .ofModule else .ofOuter)) line
        if isSimple then mark name { hasType := true, isAssigned := true } target.line
        else if value.isSome then assign name target.line
      | _ => store target
      inNotes (read type)
      readAll value.toList
    | .deletion targets => targets.forM store
    | .pass | .leaveLoop | .continueLoop => return
    | .result value => readAll value.toList
    | .error value cause => readAll (value.toList ++ cause.toList)
    | .assertion condition message => readAll (condition :: message.toList)
    | .globalNames names => names.forM fun name => declare .ofModule name line
    | .outerNames names => names.forM fun name => declare .ofOuter name line
    | .imports modules =>
      modules.forM fun found => mark (boundBy found) { isImported := true } found.line
    | .importsFrom _ _ names =>
      match names with
      | some names =>
        names.forM fun found => mark (boundBy found) { isImported := true } found.line
      | none => do if (← get).block.kind != .module then refuse .importsAllInside line
    | .choice condition body otherwise | .whileLoop condition body otherwise => do
      read condition
      run body
      run otherwise
    | .forLoop _ target source body otherwise => do
      store target
      read source
      run body
      run otherwise
    | .resources _ items body => do
      items.forM fun item => do
        read item.value
        item.target.toList.forM store
      run body
    | .attempt _ body handlers otherwise ending => do
      run body
      run otherwise
      handlers.forM fun handler => do
        readAll handler.type.toList
        handler.name.toList.forM fun name => assign name handler.line
        run handler.body
      run ending
    | .selection subject cases => do
      read subject
      cases.forM fun found => do
        pattern depth found.pattern
        readAll found.condition.toList
        run found.body
    | .function _ name taken result decorators body => do
      assign name line
      readAll (defaults taken)
      inNotes (readAll (parameterTypes taken))
      result.toList.forM fun type => inNotes (read type)
      readAll decorators
      inBlock .function none do
        parameters taken
        run body
    | .type name arguments keywords decorators body => do
      assign name line
      readAll arguments
      readAll (keywords.map Keyword.value)
      readAll decorators
      inBlock .type none (inClass name (run body))

end Survey

namespace NameBlock

/-- The line of the declaration of a name. -/
def declarationLine (block : NameBlock) (name : String) : Nat := (block.declarations.lookup name).getD 0

/-- Why the marks of a name contradict what is known outside: the names that the functions around bind,
unless there is no block around. -/
def contradiction? (block : NameBlock) (around : Option (List String)) (name : String)
    (marks : NameMarks) : Option CodeFault :=
  let found (problem : CodeProblem) : CodeFault := ⟨problem, block.declarationLine name⟩
  if marks.ofModule then if marks.ofOuter then some (found (.declaredTwice name)) else none
  else if marks.ofOuter then
    match around with
    | none => some (found .noOuterBlock)
    | some bound => if bound.contains name then none else some (found (.noOuterName name))
  else none

/-- The names that the blocks inside can refer to: those that a function binds itself, and those known to
it that it does not declare to be names of the module. A class passes on what is known to it. -/
def knownWithin (block : NameBlock) (around : Option (List String)) : List String :=
  let known := around.getD []
  let passed := known.filter fun name => !(block.marks name).ofModule
  match block.kind with
  | .type => Survey.ownClassName :: known
  | .function =>
    let own := block.names.filter fun (_, marks) =>
      !marks.ofModule && !marks.ofOuter && marks.isBound
    own.map Prod.fst ++ passed
  | _ => passed

/-- The first contradiction in a block or the blocks inside, to at most the given depth. -/
def contradictionIn? : Nat → Option (List String) → NameBlock → Option CodeFault
  | 0, _, _ => none
  | depth + 1, around, block =>
    (block.names.findSome? fun (name, marks) => block.contradiction? around name marks).or
      (block.inner.findSome? (contradictionIn? depth (some (block.knownWithin around))))

end NameBlock

/-- What is wrong with the names in code that asks for the given features and is nested to at most the
given depth. -/
def checkNames (depth : Nat) (features : List String) (code : Code) : Except CodeFault Unit := do
  let start : Place :=
    { block := { kind := .module }, hasTextTypes := features.contains FeatureRequest.textTypes }
  let ((), place) ← (code.forM (Survey.statement depth)).run start
  match place.block.contradictionIn? (depth + 1) none with
  | some fault => .error fault
  | none => .ok ()

end SelectionGen.Target
