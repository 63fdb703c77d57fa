/-! How alike two words are. The longest block of letters they share is found first, then the longest to
the left and to the right of it, and so on; the letters in these blocks count twice, as a share of all
letters of both words. -/
namespace SelectionGen.Text

/-- How many letters two words have in common at their start. -/
def commonStart [BEq α] : List α → List α → Nat
  | a :: as, b :: bs => if a == b then commonStart as bs + 1 else 0
  | _, _ => 0

/-- A block that two words share: where it begins in each, and its size. -/
structure SharedBlock where
  left : Nat
  right : Nat
  size : Nat
deriving DecidableEq, Repr

/-- The longest shared block; of several the one that begins first in `a`, then first in `b`. -/
def longestBlock [BEq α] (a b : List α) : SharedBlock :=
  (List.range a.length).foldl (fun best left =>
    (List.range b.length).foldl (fun best right =>
      let size := commonStart (a.drop left) (b.drop right)
      if best.size < size then ⟨left, right, size⟩ else best) best) ⟨0, 0, 0⟩

/-- How many letters of `a` are in blocks shared with `b`. -/
def sharedLetters [BEq α] (a b : List α) : Nat :=
  let block := longestBlock a b
  if _inside : 0 < block.size ∧ block.left < a.length then
    sharedLetters (a.take block.left) (b.take block.right) + block.size
      + sharedLetters (a.drop (block.left + block.size)) (b.drop (block.right + block.size))
  else 0
termination_by a.length
decreasing_by
  · obtain ⟨_, before⟩ := _inside
    simp only [List.length_take, block] at before ⊢
    omega
  · obtain ⟨some, before⟩ := _inside
    simp only [List.length_drop, block] at some before ⊢
    omega

/-- A candidate for a word that was probably meant, with the letters it shares and all letters. -/
structure Candidate where
  word : String
  shared : Nat
  total : Nat
deriving DecidableEq, Repr

def Candidate.of (meant word : String) : Candidate :=
  ⟨word, sharedLetters word.toList meant.toList, word.length + meant.length⟩

/-- Alike enough to be proposed: three fifths of all letters are shared. -/
def Candidate.isClose (candidate : Candidate) : Bool := 3 * candidate.total ≤ 10 * candidate.shared

/-- Whether one candidate is proposed before another: the more alike, then the later word. -/
def Candidate.precedes (a b : Candidate) : Bool :=
  b.shared * a.total < a.shared * b.total
    || (a.shared * b.total == b.shared * a.total && decide (b.word ≤ a.word))

/-- At most three of the words, those most like the given one first. -/
def closeWords (meant : String) (words : List String) : List String :=
  ((((words.map (Candidate.of meant)).filter Candidate.isClose).mergeSort Candidate.precedes).take 3).map
    Candidate.word

end SelectionGen.Text
