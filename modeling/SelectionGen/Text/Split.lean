/-! Taking texts apart: pieces between separators, and what texts begin and end with. Pieces make the text again. -/
namespace SelectionGen.Text

/-- The pieces between the occurrences of a separator; always one more than there are separators. -/
def splitAt (separator : Char) : List Char → List (List Char)
  | [] => [[]]
  | c :: rest =>
    if c = separator then [] :: splitAt separator rest
    else match splitAt separator rest with
      | [] => [[c]]
      | piece :: pieces => (c :: piece) :: pieces

/-- The pieces of a text between the occurrences of a separator. -/
def pieces (separator : Char) (text : String) : List String :=
  (splitAt separator text.toList).map String.ofList

def beginsWith (start text : String) : Bool := start.toList.isPrefixOf text.toList

def endsWith (ending text : String) : Bool := ending.toList.isSuffixOf text.toList

/-! Line ends of a text: a line feed, a carriage return, or a carriage return and a line feed together. -/

/-- The same text with every line end written as one line feed. -/
def unifyLineEnds : List Char → List Char
  | [] => []
  | '\r' :: '\n' :: rest => '\n' :: unifyLineEnds rest
  | '\r' :: rest => '\n' :: unifyLineEnds rest
  | c :: rest => c :: unifyLineEnds rest

/-- The lines of a text, without their ends. -/
def lines (text : List Char) : List (List Char) :=
  splitAt '\n' (unifyLineEnds text)

/-- What stands before the first line end. -/
def firstLine (text : String) : String :=
  String.ofList (text.toList.takeWhile (fun c => c != '\n'))

/-! A text is what its pieces make with the separator between them, and the pieces of two texts with a separator between
them are those of both. -/

theorem splitAt_ne_nil (separator : Char) (text : List Char) : splitAt separator text ≠ [] := by
  induction text with
  | nil => simp [splitAt]
  | cons c rest ih =>
    rw [splitAt]
    split
    · simp
    · split <;> simp

theorem splitAt_append (separator : Char) (front text : List Char) :
    splitAt separator (front ++ separator :: text) = splitAt separator front ++ splitAt separator text := by
  induction front with
  | nil => simp [splitAt]
  | cons c rest ih =>
    simp only [List.cons_append, splitAt, ih]
    split
    · rfl
    · cases shape : splitAt separator rest with
      | nil => exact absurd shape (splitAt_ne_nil separator rest)
      | cons piece pieces => rfl

/-- Pieces make the text again. -/
theorem joined_splitAt (separator : Char) (text : List Char) {first : List Char} {others : List (List Char)}
    (split : splitAt separator text = first :: others) :
    first ++ others.flatMap (separator :: ·) = text := by
  induction text generalizing first others with
  | nil =>
    cases split
    rfl
  | cons c rest ih =>
    obtain ⟨piece, pieces, shape⟩ := List.exists_cons_of_ne_nil (splitAt_ne_nil separator rest)
    rw [splitAt, shape] at split
    split at split
    · rename_i same
      cases split
      rw [same, List.nil_append, List.flatMap_cons, List.cons_append, ih shape]
    · cases split
      rw [List.cons_append, ih shape]

/-- No separator is left in a piece. -/
theorem not_mem_of_mem_splitAt {separator : Char} {text piece : List Char} (member : piece ∈ splitAt separator text) :
    separator ∉ piece := by
  induction text generalizing piece with
  | nil =>
    obtain rfl := List.mem_singleton.mp member
    exact List.not_mem_nil
  | cons c rest ih =>
    obtain ⟨first, others, shape⟩ := List.exists_cons_of_ne_nil (splitAt_ne_nil separator rest)
    rw [splitAt, shape] at member
    rw [shape] at ih
    split at member
    · rcases List.mem_cons.mp member with rfl | later
      · exact List.not_mem_nil
      · exact ih later
    · rename_i ends
      rcases List.mem_cons.mp member with rfl | later
      · exact fun inPiece => (List.mem_cons.mp inPiece).elim (Ne.symm ends) (ih List.mem_cons_self)
      · exact ih (List.mem_cons_of_mem _ later)

theorem mem_of_mem_splitAt {separator c : Char} {text piece : List Char} (member : piece ∈ splitAt separator text)
    (inPiece : c ∈ piece) : c ∈ text := by
  obtain ⟨first, others, split⟩ := List.exists_cons_of_ne_nil (splitAt_ne_nil separator text)
  rw [← joined_splitAt separator text split]
  rw [split] at member
  rcases List.mem_cons.mp member with rfl | later
  · exact List.mem_append_left _ inPiece
  · exact List.mem_append_right _ (List.mem_flatMap.mpr ⟨piece, later, List.mem_cons_of_mem _ inPiece⟩)

theorem splitAt_of_not_mem {separator : Char} {text : List Char} (whole : separator ∉ text) :
    splitAt separator text = [text] := by
  induction text with
  | nil => rfl
  | cons c rest ih =>
    obtain ⟨differs, later⟩ : separator ≠ c ∧ separator ∉ rest := by simpa using whole
    rw [splitAt, if_neg (Ne.symm differs), ih later]

/-- Pieces that hold no separator are what their text is taken apart into. -/
theorem splitAt_joined {separator : Char} {first : List Char} {others : List (List Char)}
    (whole : ∀ piece ∈ first :: others, separator ∉ piece) :
    splitAt separator (first ++ others.flatMap (separator :: ·)) = first :: others := by
  induction others generalizing first with
  | nil => simpa using splitAt_of_not_mem (whole first List.mem_cons_self)
  | cons next rest ih =>
    obtain ⟨inFirst, later⟩ := List.forall_mem_cons.mp whole
    rw [List.flatMap_cons, List.cons_append, splitAt_append, splitAt_of_not_mem inFirst, ih later,
      List.singleton_append]

/-- A character behind a text that is no separator belongs to its last piece. -/
theorem splitAt_concat {separator c : Char} (inside : c ≠ separator) (text : List Char) :
    ∃ pieces last, splitAt separator text = pieces ++ [last] ∧
      splitAt separator (text ++ [c]) = pieces ++ [last ++ [c]] := by
  induction text with
  | nil => exact ⟨[], [], rfl, by simp [splitAt, inside]⟩
  | cons d rest ih =>
    obtain ⟨pieces, last, whole, extended⟩ := ih
    simp only [List.cons_append, splitAt, whole, extended]
    split
    · exact ⟨[] :: pieces, last, rfl, rfl⟩
    · cases pieces with
      | nil => exact ⟨[], d :: last, rfl, rfl⟩
      | cons piece more => exact ⟨(d :: piece) :: more, last, rfl, rfl⟩

/-- Texts put together with something between them. -/
theorem toList_intercalate_cons (between first : String) (others : List String) :
    (between.intercalate (first :: others)).toList
      = first.toList ++ others.flatMap fun text => between.toList ++ text.toList := by
  induction others generalizing first with
  | nil => simp
  | cons next rest ih =>
    rw [String.intercalate_cons_cons, String.toList_append, ih, String.toList_append, List.flatMap_cons,
      List.append_assoc, List.append_assoc]

theorem toList_join (texts : List String) : ("".intercalate texts).toList = texts.flatMap String.toList := by
  cases texts with
  | nil => simp
  | cons first others => simpa using toList_intercalate_cons "" first others

section Pieces

variable {separator : Char} {between : String}

theorem pieces_ne_nil (separator : Char) (text : String) : pieces separator text ≠ [] :=
  fun none => splitAt_ne_nil separator text.toList (List.map_eq_nil_iff.mp none)

theorem pieces_append (one : between.toList = [separator]) (front text : String) :
    pieces separator (front ++ between ++ text) = pieces separator front ++ pieces separator text := by
  rw [pieces, String.toList_append, String.toList_append, one, List.append_assoc, List.singleton_append, splitAt_append,
    List.map_append]
  rfl

/-- A text is what its pieces make with the separator between them. -/
theorem intercalate_pieces (one : between.toList = [separator]) (text : String) :
    between.intercalate (pieces separator text) = text := by
  obtain ⟨first, others, split⟩ := List.exists_cons_of_ne_nil (splitAt_ne_nil separator text.toList)
  rw [pieces, split, List.map_cons, ← String.toList_inj, toList_intercalate_cons, one, List.flatMap_map,
    ← joined_splitAt separator text.toList split]
  simp

theorem pieces_intercalate (one : between.toList = [separator]) {parts : List String} (isSome : parts ≠ [])
    (whole : ∀ part ∈ parts, separator ∉ part.toList) : pieces separator (between.intercalate parts) = parts := by
  induction parts with
  | nil => exact absurd rfl isSome
  | cons part rest ih =>
    obtain ⟨inPart, later⟩ := List.forall_mem_cons.mp whole
    have alone : pieces separator part = [part] := by
      rw [pieces, splitAt_of_not_mem inPart, List.map_singleton, String.ofList_toList]
    cases rest with
    | nil => rw [String.intercalate_singleton, alone]
    | cons next rest =>
      rw [String.intercalate_cons_cons, pieces_append one, alone, ih (List.cons_ne_nil _ _) later,
        List.singleton_append]

theorem not_mem_of_mem_pieces {text piece : String} (member : piece ∈ pieces separator text) :
    separator ∉ piece.toList := by
  obtain ⟨part, listed, rfl⟩ := List.mem_map.mp member
  rw [String.toList_ofList]
  exact not_mem_of_mem_splitAt listed

end Pieces

end SelectionGen.Text
