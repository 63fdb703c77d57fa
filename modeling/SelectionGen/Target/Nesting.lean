import SelectionGen.Target.Code

/-! How deeply code is nested. The measure is open in two ways: what each kind of expression costs, and what
the parts cost that are no expressions themselves. -/
namespace SelectionGen.Target

/-- What counts for the depth of code. -/
structure DepthCost where
  ofExpression : ExpressionForm → Nat
  ofStatement : StatementForm → Nat
  ofPart : Nat

mutual

def Expression.depth (cost : DepthCost) : Expression → Nat
  | ⟨_, form⟩ => cost.ofExpression form + form.depthBelow cost

def ExpressionForm.depthBelow (cost : DepthCost) : ExpressionForm → Nat
  | .constant _ | .name _ => 0
  | .formatted pieces => piecesDepth cost pieces
  | .member owner _ => owner.depth cost
  | .index owner key => max (owner.depth cost) (key.depth cost)
  | .range first last step =>
    max (optionalDepth cost first) (max (optionalDepth cost last) (optionalDepth cost step))
  | .call function arguments keywords =>
    max (function.depth cost) (max (listDepth cost arguments) (keywordsDepth cost keywords))
  | .tuple elements | .list elements | .set elements => listDepth cost elements
  | .mapping entries => entriesDepth cost entries
  | .unary _ operand | .starred operand | .awaited operand => operand.depth cost
  | .binary _ left right => max (left.depth cost) (right.depth cost)
  | .conjunction operands | .disjunction operands => listDepth cost operands
  | .comparison first others => max (first.depth cost) (comparedDepth cost others)
  | .choice condition first second =>
    max (condition.depth cost) (max (first.depth cost) (second.depth cost))
  | .function parameters body => max (parameters.depth cost) (body.depth cost)
  | .named target value => max (target.depth cost) (value.depth cost)
  | .yielded value => optionalDepth cost value
  | .yieldedFrom source => source.depth cost
  | .collected _ element loops => max (element.depth cost) (loopsDepth cost loops)
  | .collectedEntries key value loops =>
    max (key.depth cost) (max (value.depth cost) (loopsDepth cost loops))

def listDepth (cost : DepthCost) : List Expression → Nat
  | [] => 0
  | first :: rest => max (first.depth cost) (listDepth cost rest)

def optionalDepth (cost : DepthCost) : Option Expression → Nat
  | none => 0
  | some expression => expression.depth cost

def piecesDepth (cost : DepthCost) : List Piece → Nat
  | [] => 0
  | first :: rest => max (first.depth cost) (piecesDepth cost rest)

def Piece.depth (cost : DepthCost) : Piece → Nat
  | .plain _ => cost.ofPart
  | .field value _ format => cost.ofPart + max (value.depth cost) (piecesDepth cost format)

def keywordsDepth (cost : DepthCost) : List Keyword → Nat
  | [] => 0
  | first :: rest => max (first.depth cost) (keywordsDepth cost rest)

def Keyword.depth (cost : DepthCost) : Keyword → Nat
  | ⟨_, _, value⟩ => cost.ofPart + value.depth cost

def entriesDepth (cost : DepthCost) : List Entry → Nat
  | [] => 0
  | first :: rest => max (first.depth cost) (entriesDepth cost rest)

def Entry.depth (cost : DepthCost) : Entry → Nat
  | .pair key value => max (key.depth cost) (value.depth cost)
  | .all mapping => mapping.depth cost

def comparedDepth (cost : DepthCost) : List Compared → Nat
  | [] => 0
  | first :: rest => max (first.depth cost) (comparedDepth cost rest)

def Compared.depth (cost : DepthCost) : Compared → Nat
  | ⟨_, operand⟩ => operand.depth cost

def loopsDepth (cost : DepthCost) : List Loop → Nat
  | [] => 0
  | first :: rest => max (first.depth cost) (loopsDepth cost rest)

def Loop.depth (cost : DepthCost) : Loop → Nat
  | ⟨_, target, source, conditions⟩ =>
    cost.ofPart + max (target.depth cost) (max (source.depth cost) (listDepth cost conditions))

def parametersDepth (cost : DepthCost) : List Parameter → Nat
  | [] => 0
  | first :: rest => max (first.depth cost) (parametersDepth cost rest)

def optionalParameterDepth (cost : DepthCost) : Option Parameter → Nat
  | none => 0
  | some parameter => parameter.depth cost

def Parameter.depth (cost : DepthCost) : Parameter → Nat
  | ⟨_, _, type, default⟩ =>
    max (cost.ofPart + optionalDepth cost type) (optionalDepth cost default)

def Parameters.depth (cost : DepthCost) : Parameters → Nat
  | ⟨byPlace, regular, others, byName, mapping⟩ =>
    cost.ofPart + max (max (parametersDepth cost byPlace) (parametersDepth cost regular))
      (max (optionalParameterDepth cost others)
        (max (parametersDepth cost byName) (optionalParameterDepth cost mapping)))

end

mutual

def Pattern.depth (cost : DepthCost) : Pattern → Nat
  | ⟨_, form⟩ => cost.ofPart + form.depthBelow cost

def PatternForm.depthBelow (cost : DepthCost) : PatternForm → Nat
  | .value value => value.depth cost
  | .constant _ | .starred _ => 0
  | .sequence patterns | .alternatives patterns => patternsDepth cost patterns
  | .mapping entries _ => keyPatternsDepth cost entries
  | .object type members named =>
    max (type.depth cost) (max (patternsDepth cost members) (namedPatternsDepth cost named))
  | .capture pattern _ => optionalPatternDepth cost pattern

def patternsDepth (cost : DepthCost) : List Pattern → Nat
  | [] => 0
  | first :: rest => max (first.depth cost) (patternsDepth cost rest)

def optionalPatternDepth (cost : DepthCost) : Option Pattern → Nat
  | none => 0
  | some pattern => pattern.depth cost

def keyPatternsDepth (cost : DepthCost) : List KeyPattern → Nat
  | [] => 0
  | ⟨key, pattern⟩ :: rest =>
    max (max (key.depth cost) (pattern.depth cost)) (keyPatternsDepth cost rest)

def namedPatternsDepth (cost : DepthCost) : List NamedPattern → Nat
  | [] => 0
  | ⟨_, pattern⟩ :: rest => max (pattern.depth cost) (namedPatternsDepth cost rest)

end

def Resource.depth (cost : DepthCost) (resource : Resource) : Nat :=
  cost.ofPart + max (resource.value.depth cost) (optionalDepth cost resource.target)

/-- The depth of the deepest of some resources. -/
def resourcesDepth (cost : DepthCost) (resources : List Resource) : Nat :=
  resources.foldl (fun depth resource => max depth (resource.depth cost)) 0

mutual

def Statement.depth (cost : DepthCost) : Statement → Nat
  | ⟨_, form⟩ => cost.ofStatement form + form.depthBelow cost

def StatementForm.depthBelow (cost : DepthCost) : StatementForm → Nat
  | .expression value => value.depth cost
  | .assignment targets value => max (listDepth cost targets) (value.depth cost)
  | .update target _ value => max (target.depth cost) (value.depth cost)
  | .declaration target type value _ =>
    max (target.depth cost) (max (type.depth cost) (optionalDepth cost value))
  | .deletion targets => listDepth cost targets
  | .pass | .leaveLoop | .continueLoop | .globalNames _ | .outerNames _ => 0
  | .imports _ | .importsFrom .. => cost.ofPart
  | .result value => optionalDepth cost value
  | .error value cause => max (optionalDepth cost value) (optionalDepth cost cause)
  | .assertion condition message => max (condition.depth cost) (optionalDepth cost message)
  | .choice condition body otherwise | .whileLoop condition body otherwise =>
    max (condition.depth cost) (max (codeDepth cost body) (codeDepth cost otherwise))
  | .forLoop _ target source body otherwise =>
    max (max (target.depth cost) (source.depth cost))
      (max (codeDepth cost body) (codeDepth cost otherwise))
  | .resources _ items body => max (resourcesDepth cost items) (codeDepth cost body)
  | .attempt _ body handlers otherwise ending =>
    max (max (codeDepth cost body) (handlersDepth cost handlers))
      (max (codeDepth cost otherwise) (codeDepth cost ending))
  | .selection subject cases => max (subject.depth cost) (casesDepth cost cases)
  | .function _ _ parameters result decorators body =>
    max (max (parameters.depth cost) (optionalDepth cost result))
      (max (listDepth cost decorators) (codeDepth cost body))
  | .type _ arguments keywords decorators body =>
    max (max (listDepth cost arguments) (keywordsDepth cost keywords))
      (max (listDepth cost decorators) (codeDepth cost body))

def codeDepth (cost : DepthCost) : List Statement → Nat
  | [] => 0
  | first :: rest => max (first.depth cost) (codeDepth cost rest)

def handlersDepth (cost : DepthCost) : List Handler → Nat
  | [] => 0
  | ⟨_, type, _, body⟩ :: rest =>
    max (cost.ofPart + max (optionalDepth cost type) (codeDepth cost body)) (handlersDepth cost rest)

def casesDepth (cost : DepthCost) : List Case → Nat
  | [] => 0
  | ⟨pattern, condition, body⟩ :: rest =>
    max (cost.ofPart + max (pattern.depth cost)
        (max (optionalDepth cost condition) (codeDepth cost body)))
      (casesDepth cost rest)

end

namespace DepthCost

/-- Every node of the tree counts. -/
def ofTree : DepthCost := ⟨fun _ => 1, fun _ => 1, 1⟩

def hasDefault (parameters : Parameters) : Bool :=
  (parameters.byPlace ++ parameters.regular ++ parameters.byName).any fun parameter =>
    parameter.default.isSome

/-- What counts is what has to be kept in mind while code is read: the operators whose last operand is
still to come. -/
def ofReading : DepthCost where
  ofExpression
    | .unary .. | .choice .. => 1
    | .binary .power .. => 2
    | .function parameters _ => if hasDefault parameters then 8 else 2
    | _ => 0
  ofStatement
    | .choice .. => 1
    | _ => 0
  ofPart := 0

end DepthCost

end SelectionGen.Target
