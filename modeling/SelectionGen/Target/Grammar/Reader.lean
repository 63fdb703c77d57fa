import SelectionGen.Projection.Naming
import SelectionGen.Target.Lexer

/-! Readers of token sequences. A reader takes a sentence off the front of a sequence and gives what it stands
for together with what follows. Every repetition takes a token, so the tokens themselves are the
measure that ends it: what goes on `within` a sequence makes at most as many steps as that has tokens. -/
namespace SelectionGen.Target

/-- An expression as far as something can be assigned to it. -/
inductive Shape
  | single
  | sequence (hasStarred : Bool)
  | starred
  | fixed
deriving DecidableEq, Repr

namespace Shape

/-- Whether values can be bound to the expression. -/
def isTarget : Shape → Bool
  | fixed => false
  | _ => true

/-- Whether the expression can be deleted, which all targets can that no part of is starred. -/
def isDeletable : Shape → Bool
  | single | sequence false => true
  | _ => false

/-- An expression with a star in front. -/
def withStar (shape : Shape) : Shape := if shape.isTarget then starred else fixed

def isStarred : Shape → Bool
  | starred | sequence true => true
  | _ => false

/-- A sequence in brackets, by the shapes of its elements. -/
def ofElements (shapes : List Shape) : Shape :=
  if shapes.all isTarget then sequence (shapes.any isStarred) else fixed

end Shape

mutual

def Expression.shape : Expression → Shape
  | ⟨_, form⟩ => form.shape

def ExpressionForm.shape : ExpressionForm → Shape
  | .name _ | .member .. | .index .. => .single
  | .tuple elements | .list elements => Shape.ofElements (shapesOf elements)
  | .starred operand => operand.shape.withStar
  | _ => .fixed

def shapesOf : List Expression → List Shape
  | [] => []
  | first :: rest => first.shape :: shapesOf rest

end

def Expression.isTarget (expression : Expression) : Bool := expression.shape.isTarget

namespace Grammar

/-- Gives what follows the recognised tokens, or nothing if they are no sentence. -/
abbrev Recognizer := List Token → Option (List Token)

/-- Gives what the tokens stand for and what follows them. -/
abbrev Reader (α : Type) := List Token → Option (α × List Token)

def mark (text : String) : Recognizer
  | ⟨.mark found, _⟩ :: rest => if found = text then some rest else none
  | _ => none

def word (text : String) : Recognizer
  | ⟨.name found, _⟩ :: rest => if found = text then some rest else none
  | _ => none

def lineEnd : Recognizer
  | ⟨.lineEnd, _⟩ :: rest => some rest
  | _ => none

/-- Whether the tokens begin with a mark. -/
def startsWith (text : String) (tokens : List Token) : Bool := (mark text tokens).isSome

/-- A name that is no keyword. -/
def identifier : Reader String
  | ⟨.name found, _⟩ :: rest => if Projection.keywords.contains found then none else some (found, rest)
  | _ => none

/-- What follows the sentence, or the whole sequence if there is none. -/
def optionally (recognize : Recognizer) (tokens : List Token) : List Token :=
  (recognize tokens).getD tokens

/-- What a sentence stands for, if there is one, and what follows it. -/
def perhaps (read : Reader α) (tokens : List Token) : Option α × List Token :=
  match read tokens with
  | some (found, rest) => (some found, rest)
  | none => (none, tokens)

/-- What stands behind a word or mark, if that is there. Then it has to follow. -/
def behind (opening : Recognizer) (read : Reader α) : Reader (Option α) := fun tokens =>
  match opening tokens with
  | some rest => (read rest).map fun (found, rest) => (some found, rest)
  | none => some (none, tokens)

def repeatedWithin (read : Reader α) : (within : List Token) → List Token → List α × List Token
  | [], tokens => ([], tokens)
  | _ :: within, tokens =>
    match read tokens with
    | some (found, rest) =>
      let (others, rest) := repeatedWithin read within rest
      (found :: others, rest)
    | none => ([], tokens)

/-- As many sentences as there are. -/
def repeatedly (read : Reader α) (tokens : List Token) : List α × List Token :=
  repeatedWithin read tokens tokens

/-- One sentence and as many more as there are. -/
def severalTimes (read : Reader α) : Reader (List α) := fun tokens => do
  let (first, rest) ← read tokens
  let (others, rest) := repeatedly read rest
  return (first :: others, rest)

/-- Items with commas between them. -/
structure Listing (α : Type) where
  items : List α
  endsWithComma : Bool

/-- The item that the listing is, unless it is a sequence. -/
def Listing.single? (listing : Listing α) : Option α :=
  match listing.items, listing.endsWithComma with
  | [item], false => some item
  | _, _ => none

def listedWithin (item : Reader α) : (within : List Token) → Reader (Listing α)
  | [], _ => none
  | _ :: within, tokens => do
    let (first, rest) ← item tokens
    match mark "," rest with
    | none => return (⟨[first], false⟩, rest)
    | some rest =>
      match listedWithin item within rest with
      | some (others, rest) => return (⟨first :: others.items, others.endsWithComma⟩, rest)
      | none => return (⟨[first], true⟩, rest)

/-- Items with commas between them and possibly one behind the last. -/
def listed (item : Reader α) : Reader (Listing α) := fun tokens => listedWithin item tokens tokens

def separatedWithin (separator : Recognizer) (item : Reader α) : (within : List Token) → Reader (List α)
  | [], _ => none
  | _ :: within, tokens => do
    let (first, rest) ← item tokens
    match separator rest with
    | some rest =>
      let (others, rest) ← separatedWithin separator item within rest
      return (first :: others, rest)
    | none => return ([first], rest)

/-- Things with separators between them and none behind the last. -/
def separatedBy (separator : Recognizer) (item : Reader α) : Reader (List α) := fun tokens =>
  separatedWithin separator item tokens tokens

/-- Things with commas between them and none behind the last. -/
def commaSeparated (item : Reader α) : Reader (List α) := separatedBy (mark ",") item

/-- Names with dots between them. -/
def dottedNames : Reader (List String) := fun tokens => do
  let (first, rest) ← identifier tokens
  let (others, rest) := repeatedly (fun tokens => do identifier (← mark "." tokens)) rest
  return (first :: others, rest)

end Grammar

end SelectionGen.Target
