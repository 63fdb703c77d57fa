/-! Code of the target language as trees. Expressions, patterns and statements know the line they begin
on, because what is wrong with them is reported with it. -/
namespace SelectionGen.Target

/-- Values that are written out. A number with a point or an exponent is `mantissa * 10 ^ exponent`. -/
inductive Constant
  | nothing
  | truth (value : Bool)
  | ellipsis
  | whole (value : Nat)
  | real (mantissa : Nat) (exponent : Int)
  | imaginary (mantissa : Nat) (exponent : Int)
  | text (value : String)
  | bytes (values : List UInt8)
deriving DecidableEq, Repr, Inhabited

/-- Operators in front of an operand. -/
inductive UnaryOperator
  | negate
  | keep
  | invert
  | not
deriving DecidableEq, Repr

/-- Arithmetic operators between two operands. -/
inductive BinaryOperator
  | or
  | xor
  | and
  | shiftLeft
  | shiftRight
  | add
  | subtract
  | multiply
  | multiplyMatrices
  | divide
  | floorDivide
  | remainder
  | power
deriving DecidableEq, Repr

/-- Comparisons, of which several can follow one another. -/
inductive Comparison
  | equal
  | different
  | less
  | lessOrEqual
  | greater
  | greaterOrEqual
  | identical
  | distinct
  | inside
  | outside
deriving DecidableEq, Repr

/-- What a loop within an expression makes of its elements. -/
inductive Collection
  | list
  | set
  | generator
deriving DecidableEq, Repr

mutual

structure Expression where
  line : Nat
  form : ExpressionForm

inductive ExpressionForm
  | constant (value : Constant)
  | name (text : String)
  | formatted (pieces : List Piece)
  | member (owner : Expression) (name : String)
  | index (owner key : Expression)
  | range (first last step : Option Expression)
  | call (function : Expression) (arguments : List Expression) (keywords : List Keyword)
  | tuple (elements : List Expression)
  | list (elements : List Expression)
  | set (elements : List Expression)
  | mapping (entries : List Entry)
  | unary (operator : UnaryOperator) (operand : Expression)
  | binary (operator : BinaryOperator) (left right : Expression)
  | conjunction (operands : List Expression)
  | disjunction (operands : List Expression)
  | comparison (first : Expression) (others : List Compared)
  | choice (condition first second : Expression)
  | function (parameters : Parameters) (body : Expression)
  | named (target value : Expression)
  | starred (operand : Expression)
  | awaited (operand : Expression)
  | yielded (value : Option Expression)
  | yieldedFrom (source : Expression)
  | collected (collection : Collection) (element : Expression) (loops : List Loop)
  | collectedEntries (key value : Expression) (loops : List Loop)

/-- A piece of a formatted literal: plain text, or a value with the letter of its conversion, if it has
one, and the pieces of its format. -/
inductive Piece
  | plain (text : String)
  | field (value : Expression) (conversion : Option Char) (format : List Piece)

/-- An argument by name, or without one all arguments that a mapping holds. -/
structure Keyword where
  line : Nat
  name : Option String
  value : Expression

/-- An entry of a mapping, or all entries of another one. -/
inductive Entry
  | pair (key value : Expression)
  | all (mapping : Expression)

/-- An operand that the one in front of it is compared with. -/
structure Compared where
  comparison : Comparison
  operand : Expression

/-- A loop within an expression and the conditions behind it. -/
structure Loop where
  isAsync : Bool
  target : Expression
  source : Expression
  conditions : List Expression

structure Parameter where
  line : Nat
  name : String
  type : Option Expression
  default : Option Expression

/-- What a function takes: arguments by place alone, by place or name, all others by place, by name alone,
and all others by name. -/
structure Parameters where
  byPlace : List Parameter
  regular : List Parameter
  others : Option Parameter
  byName : List Parameter
  mapping : Option Parameter

end

mutual

/-- What values are matched against. -/
structure Pattern where
  line : Nat
  form : PatternForm

inductive PatternForm
  | value (value : Expression)
  | constant (value : Constant)
  | sequence (elements : List Pattern)
  | mapping (entries : List KeyPattern) (rest : Option String)
  | object (type : Expression) (members : List Pattern) (namedMembers : List NamedPattern)
  | starred (name : Option String)
  | capture (pattern : Option Pattern) (name : Option String)
  | alternatives (patterns : List Pattern)

structure KeyPattern where
  key : Expression
  pattern : Pattern

structure NamedPattern where
  name : String
  pattern : Pattern

end

/-- What an import names, possibly bound to another name. -/
structure ImportedName where
  line : Nat
  name : String
  alias? : Option String
deriving DecidableEq, Repr

/-- Something to work with in a block, possibly assigned to a target. -/
structure Resource where
  value : Expression
  target : Option Expression

mutual

structure Statement where
  line : Nat
  form : StatementForm

inductive StatementForm
  | expression (value : Expression)
  | assignment (targets : List Expression) (value : Expression)
  | update (target : Expression) (operator : BinaryOperator) (value : Expression)
  | declaration (target type : Expression) (value : Option Expression) (isSimple : Bool)
  | deletion (targets : List Expression)
  | pass
  | leaveLoop
  | continueLoop
  | result (value : Option Expression)
  | error (value cause : Option Expression)
  | assertion (condition : Expression) (message : Option Expression)
  | globalNames (names : List String)
  | outerNames (names : List String)
  | imports (modules : List ImportedName)
  | importsFrom (dots : Nat) (moduleName : Option String) (names : Option (List ImportedName))
  | choice (condition : Expression) (body otherwise : List Statement)
  | whileLoop (condition : Expression) (body otherwise : List Statement)
  | forLoop (isAsync : Bool) (target source : Expression) (body otherwise : List Statement)
  | resources (isAsync : Bool) (items : List Resource) (body : List Statement)
  | attempt (isForGroups : Bool) (body : List Statement) (handlers : List Handler)
      (otherwise ending : List Statement)
  | selection (subject : Expression) (cases : List Case)
  | function (isAsync : Bool) (name : String) (parameters : Parameters) (result : Option Expression)
      (decorators : List Expression) (body : List Statement)
  | type (name : String) (arguments : List Expression) (keywords : List Keyword)
      (decorators : List Expression) (body : List Statement)

/-- What is done about errors of a type, or of any. -/
structure Handler where
  line : Nat
  type : Option Expression
  name : Option String
  body : List Statement

structure Case where
  pattern : Pattern
  condition : Option Expression
  body : List Statement

end

instance : Inhabited Expression := ⟨⟨0, .constant .nothing⟩⟩

instance : Inhabited Pattern := ⟨⟨0, .sequence []⟩⟩

instance : Inhabited Statement := ⟨⟨0, .pass⟩⟩

def Expression.isStarred (expression : Expression) : Bool :=
  match expression.form with
  | .starred _ => true
  | _ => false

def Pattern.isStarred (pattern : Pattern) : Bool :=
  match pattern.form with
  | .starred _ => true
  | _ => false

/-- A whole module. -/
abbrev Code := List Statement

/-! Units of code. Line ends and changes of indentation are tokens like names and marks. A formatted literal
is a sequence of tokens from `formatted` to `finish`; a field in it goes from `field` to its own `finish`
and consists of an expression in round brackets and the parts of its format. -/

inductive TokenKind
  | name (text : String)
  | number (value : Constant)
  | literal (value : Constant)
  | formatted
  | plain (text : String)
  | field (conversion : Option Char)
  | finish
  | mark (text : String)
  | lineEnd
  | indent
  | dedent
deriving DecidableEq, Repr

/-- A token and the line it begins on. -/
structure Token where
  kind : TokenKind
  line : Nat
deriving DecidableEq, Repr

/-- The line that what begins with these tokens is on. -/
def lineOf (tokens : List Token) : Nat := (tokens.head?.map Token.line).getD 0

end SelectionGen.Target
