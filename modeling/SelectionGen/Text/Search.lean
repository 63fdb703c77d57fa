/-! Finding a part within a sequence, and taking the sequence apart there. The sequence may consist of
characters, of bytes, or of anything else that can be compared. An empty part is found at every place. -/
namespace SelectionGen.Text.Search

/-- The first place of a part. -/
def find? [BEq α] (part : List α) : List α → Option Nat
  | [] => if part.isEmpty then some 0 else none
  | c :: rest => if part.isPrefixOf (c :: rest) then some 0 else (find? part rest).map (· + 1)

/-- The last place of a part. -/
def findLast? [BEq α] (part whole : List α) : Option Nat :=
  (find? part.reverse whole.reverse).map fun place => whole.length - part.length - place

/-- The pieces between the occurrences of a part that is not empty, the first of them only up to the limit. -/
def splitOn [BEq α] (part : List α) : Nat → List α → List (List α)
  | 0, whole => [whole]
  | limit + 1, whole =>
    match find? part whole with
    | none => [whole]
    | some place => whole.take place :: splitOn part limit (whole.drop (place + part.length))

/-- The pieces between the occurrences of a part that is not empty, the last of them only up to the limit. -/
def splitBackOn [BEq α] (part : List α) (limit : Nat) (whole : List α) : List (List α) :=
  ((splitOn part.reverse limit whole.reverse).map List.reverse).reverse

/-- The words between blanks; behind the limit all that is left is one piece. -/
def words (isBlank : α → Bool) : Nat → List α → List (List α)
  | 0, whole =>
    let rest := whole.dropWhile isBlank
    if rest.isEmpty then [] else [rest]
  | limit + 1, whole =>
    let rest := whole.dropWhile isBlank
    if rest.isEmpty then []
    else
      let word := rest.takeWhile fun c => !isBlank c
      word :: words isBlank limit (rest.drop word.length)

/-- The words between blanks, counted from the end. -/
def wordsBack (isBlank : α → Bool) (limit : Nat) (whole : List α) : List (List α) :=
  ((words isBlank limit whole.reverse).map List.reverse).reverse

/-- A sequence with something put in front of its elements and at its end, up to the limit. -/
def interspersed (between : List α) : Nat → List α → List α
  | 0, whole => whole
  | _, [] => between
  | limit + 1, c :: rest => between ++ c :: interspersed between limit rest

/-- A sequence with the occurrences of a part replaced, up to the limit. -/
def replaced [BEq α] (part other : List α) (limit : Nat) (whole : List α) : List α :=
  if part.isEmpty then interspersed other limit whole
  else other.intercalate (splitOn part limit whole)

/-- How often a part occurs without overlap. -/
def count [BEq α] (part whole : List α) : Nat :=
  if part.isEmpty then whole.length + 1
  else (splitOn part (whole.length + 1) whole).length - 1

/-- What stands before and behind a place where a part begins. -/
def around (part whole : List α) (place : Nat) : List α × List α :=
  (whole.take place, whole.drop (place + part.length))

/-- A sequence with tabulators replaced by blanks up to the next of the places that are so far apart; `column` is
how far the line is. -/
def expanded [BEq α] (tab blank : α) (isLineEnd : α → Bool) (width : Nat) : Nat → List α → List α
  | _, [] => []
  | column, c :: rest =>
    if c == tab then
      let count := if width = 0 then 0 else width - column % width
      List.replicate count blank ++ expanded tab blank isLineEnd width (column + count) rest
    else if isLineEnd c then c :: expanded tab blank isLineEnd width 0 rest
    else c :: expanded tab blank isLineEnd width (column + 1) rest

/-- The lines of a sequence, with their ends if these are kept. A carriage return and a line feed behind it are one
end; `line` holds what has been read of the line, the latest first. -/
def linesFrom [BEq α] (feed carriageReturn : α) (isLineEnd : α → Bool) (keepsEnds : Bool) (line : List α) :
    List α → List (List α)
  | [] => if line.isEmpty then [] else [line.reverse]
  | [c] => if isLineEnd c then [if keepsEnds then (c :: line).reverse else line.reverse] else [(c :: line).reverse]
  | c :: d :: rest =>
    if isLineEnd c then
      if c == carriageReturn && d == feed then
        (if keepsEnds then (d :: c :: line).reverse else line.reverse)
          :: linesFrom feed carriageReturn isLineEnd keepsEnds [] rest
      else
        (if keepsEnds then (c :: line).reverse else line.reverse)
          :: linesFrom feed carriageReturn isLineEnd keepsEnds [] (d :: rest)
    else linesFrom feed carriageReturn isLineEnd keepsEnds (c :: line) (d :: rest)

end SelectionGen.Text.Search
