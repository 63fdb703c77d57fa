import SelectionGen.Text.Printable

/-! What is wrong with code that is a sequence of statements and still cannot be run: names that are declared
in contradiction to their use, and statements and expressions where they have no place. -/
namespace SelectionGen.Target

/-- The name of the constant that is true unless code is made faster. -/
def debugConstant : String := "__debug__"

/-- The declarations that move a name to another block. -/
inductive Declaration
  | ofModule
  | ofOuter
deriving DecidableEq, Repr

def Declaration.keyword : Declaration → String
  | ofModule => "global"
  | ofOuter => "nonlocal"

/-- What is collected by a loop within an expression, entries of mappings included. -/
inductive CollectionKind
  | list
  | set
  | mapping
  | generator
deriving DecidableEq, Repr

def CollectionKind.description : CollectionKind → String
  | list => "list comprehension"
  | set => "set comprehension"
  | mapping => "dict comprehension"
  | generator => "generator expression"

inductive CodeProblem
  | lateFeature
  | unknownFeature (name : String)
  | refusedFeature
  | parameterTwice (name : String)
  | declaredParameter (name : String) (declaration : Declaration)
  | declaredAfterAssignment (name : String) (declaration : Declaration)
  | declaredAfterUse (name : String) (declaration : Declaration)
  | declaredWithType (name : String) (declaration : Declaration)
  | declaredTwice (name : String)
  | noOuterBlock
  | noOuterName (name : String)
  | importsAllInside
  | bindsInClassLoop
  | bindsLoopVariable (name : String)
  | loopsOverBoundName (name : String)
  | bindsInLoopSource
  | notInType (description : String)
  | yieldsInside (kind : CollectionKind)
  | constantAssigned
  | constantDeleted
  | returnOutside
  | returnsFromGenerator
  | leavesNoLoop
  | continuesNoLoop
  | leavesGroupHandler
  | starredTargetAlone
  | starredAlone
  | starredTwice
  | starredTooLate
  | keywordTwice (name : String)
  | handlerBehindOthers
  | awaitOutside
  | awaitOutsideAsync
  | yieldOutside
  | yieldFromInAsync
  | asyncOutside (keyword : String)
  | asyncCollectionOutside
  | unreachableBehindName (name : String)
  | unreachableBehindWildcard
  | starredPatternTwice
  | attributeTwice (name : String)
  | patternNoLiteral
  | keyNoLiteral
  | keyTwice (shown : String)
  | patternNameTwice (name : String)
  | alternativesDiffer
  | blocksTooDeep
deriving DecidableEq, Repr

namespace CodeProblem

/-- A name that is declared in contradiction to something else. -/
def about (name middle : String) (declaration : Declaration) : String :=
  "name '" ++ name ++ "' is " ++ middle ++ " " ++ declaration.keyword

def message : CodeProblem → String
  | lateFeature => "from __future__ imports must occur at the beginning of the file"
  | unknownFeature name => "future feature " ++ name ++ " is not defined"
  | refusedFeature => "not a chance"
  | parameterTwice name => "duplicate argument '" ++ name ++ "' in function definition"
  | declaredParameter name declaration => about name "parameter and" declaration
  | declaredAfterAssignment name declaration =>
    about name "assigned to before" declaration ++ " declaration"
  | declaredAfterUse name declaration => about name "used prior to" declaration ++ " declaration"
  | declaredWithType name declaration =>
    "annotated name '" ++ name ++ "' can't be " ++ declaration.keyword
  | declaredTwice name => "name '" ++ name ++ "' is nonlocal and global"
  | noOuterBlock => "nonlocal declaration not allowed at module level"
  | noOuterName name => "no binding for nonlocal '" ++ name ++ "' found"
  | importsAllInside => "import * only allowed at module level"
  | bindsInClassLoop =>
    "assignment expression within a comprehension cannot be used in a class body"
  | bindsLoopVariable name =>
    "assignment expression cannot rebind comprehension iteration variable '" ++ name ++ "'"
  | loopsOverBoundName name =>
    "comprehension inner loop cannot rebind assignment expression target '" ++ name ++ "'"
  | bindsInLoopSource =>
    "assignment expression cannot be used in a comprehension iterable expression"
  | notInType description => "'" ++ description ++ "' can not be used within an annotation"
  | yieldsInside kind => "'yield' inside " ++ kind.description
  | constantAssigned => "cannot assign to " ++ debugConstant
  | constantDeleted => "cannot delete " ++ debugConstant
  | returnOutside => "'return' outside function"
  | returnsFromGenerator => "'return' with value in async generator"
  | leavesNoLoop => "'break' outside loop"
  | continuesNoLoop => "'continue' not properly in loop"
  | leavesGroupHandler =>
    "'break', 'continue' and 'return' cannot appear in an except* block"
  | starredTargetAlone => "starred assignment target must be in a list or tuple"
  | starredAlone => "can't use starred expression here"
  | starredTwice => "multiple starred expressions in assignment"
  | starredTooLate => "too many expressions in star-unpacking assignment"
  | keywordTwice name => "keyword argument repeated: " ++ name
  | handlerBehindOthers => "default 'except:' must be last"
  | awaitOutside => "'await' outside function"
  | awaitOutsideAsync => "'await' outside async function"
  | yieldOutside => "'yield' outside function"
  | yieldFromInAsync => "'yield from' inside async function"
  | asyncOutside keyword => "'async " ++ keyword ++ "' outside async function"
  | asyncCollectionOutside => "asynchronous comprehension outside of an asynchronous function"
  | unreachableBehindName name =>
    "name capture " ++ Text.quoted name ++ " makes remaining patterns unreachable"
  | unreachableBehindWildcard => "wildcard makes remaining patterns unreachable"
  | starredPatternTwice => "multiple starred names in sequence pattern"
  | attributeTwice name => "attribute name repeated in class pattern: " ++ name
  | patternNoLiteral => "patterns may only match literals and attribute lookups"
  | keyNoLiteral => "mapping pattern keys may only match literals and attribute lookups"
  | keyTwice shown => "mapping pattern checks duplicate key (" ++ shown ++ ")"
  | patternNameTwice name => "multiple assignments to name " ++ Text.quoted name ++ " in pattern"
  | alternativesDiffer => "alternative patterns bind different names"
  | blocksTooDeep => "too many statically nested blocks"

end CodeProblem

/-- A problem and the line it is on. -/
structure CodeFault where
  problem : CodeProblem
  line : Nat
deriving DecidableEq, Repr

end SelectionGen.Target
