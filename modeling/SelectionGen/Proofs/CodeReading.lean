import SelectionGen.Proofs.ModuleReading
import SelectionGen.Target.Grammar

/-! Generated code as the grammar reads it. Wherever its tokens stand, each line of a module is one statement, a method
is a function with the statements of its lines, and a class holds what documents it and its methods. Lines are all that
is left open, so what a module imports, defines and uses can be read off its declarations, and no statement is nested
deeper than a method of a class. -/
namespace SelectionGen.Target

namespace Grammar

/-- Tokens of given kinds on any lines. -/
def numbered (lines : Nat → Nat) : List TokenKind → List Token
  | [] => []
  | kind :: kinds => ⟨kind, lines 0⟩ :: numbered (fun place => lines (place + 1)) kinds

theorem exists_numbered (tokens : List Token) : ∃ lines, tokens = numbered lines (tokens.map Token.kind) := by
  induction tokens with
  | nil => exact ⟨id, rfl⟩
  | cons token tokens ih =>
    obtain ⟨lines, same⟩ := ih
    refine ⟨fun place => place.casesOn token.line lines, ?_⟩
    rw [List.map_cons, numbered]
    exact congrArg (token :: ·) same

theorem length_numbered (lines : Nat → Nat) (kinds : List TokenKind) :
    (numbered lines kinds).length = kinds.length := by
  induction kinds generalizing lines with
  | nil => rfl
  | cons kind kinds ih => rw [numbered, List.length_cons, List.length_cons, ih]

section Expressions

/-! Expressions. The ones that generated code has in places where their names vary begin with a name, a literal or a
list, and end before one of a few marks. -/

/-- What stands behind an expression, as far as generated code goes. -/
def endings : List TokenKind := [.lineEnd, .mark ")", .mark "]", .mark ",", .mark ":", .mark "="]

/-- An expression ends here. -/
def EndsExpression (tokens : List Token) : Prop :=
  ∃ kind line rest, tokens = ⟨kind, line⟩ :: rest ∧ kind ∈ endings

/-- An expression begins here, with no sign or word in front of it. -/
inductive BeginsExpression : List Token → Prop
  | literal (value : Constant) (line : Nat) (rest : List Token) : BeginsExpression (⟨.literal value, line⟩ :: rest)
  | name (text : String) (line : Nat) (rest : List Token) (plain : text ∉ Projection.keywords) :
    BeginsExpression (⟨.name text, line⟩ :: rest)
  | list (line : Nat) (rest : List Token) : BeginsExpression (⟨.mark "[", line⟩ :: rest)

variable {token : Token} {tokens rest within : List Token} {found : Expression} {text : String} {line : Nat}

namespace EndsExpression

theorem kind_cases {kind : TokenKind} (member : kind ∈ endings) : kind = .lineEnd ∨ kind = .mark ")" ∨
    kind = .mark "]" ∨ kind = .mark "," ∨ kind = .mark ":" ∨ kind = .mark "=" := by
  simpa [endings] using member

theorem connective (ends : EndsExpression rest) : Grammar.connective rest = none := by
  obtain ⟨kind, line, rest, rfl, member⟩ := ends
  rcases kind_cases member with rfl | rfl | rfl | rfl | rfl | rfl <;> rfl

theorem word (ends : EndsExpression rest) (text : String) : Grammar.word text rest = none := by
  obtain ⟨kind, line, rest, rfl, member⟩ := ends
  rcases kind_cases member with rfl | rfl | rfl | rfl | rfl | rfl <;> rfl

theorem trailers (ends : EndsExpression rest) (nested : Nested) (line : Nat) (within : List Token)
    (owner : Expression) : trailersWithin nested line within owner rest = some (owner, rest) := by
  obtain ⟨kind, _, rest, rfl, member⟩ := ends
  rcases kind_cases member with rfl | rfl | rfl | rfl | rfl | rfl <;> cases within <;> simp [trailersWithin]

end EndsExpression

theorem ne_of_plain (plain : text ∉ Projection.keywords) {keyword : String} (known : keyword ∈ Projection.keywords) :
    text ≠ keyword := by
  rintro rfl
  exact plain known

theorem BeginsExpression.word (begins : BeginsExpression tokens) {keyword : String}
    (known : keyword ∈ Projection.keywords) : Grammar.word keyword tokens = none := by
  cases begins with
  | literal value line rest => rfl
  | name text line rest plain => rw [Grammar.word, if_neg (ne_of_plain plain known)]
  | list line rest => rfl

/-- What is read as one thing with what belongs to it is a whole expression, if an expression ends behind it. -/
theorem whole_of_primary (begins : BeginsExpression tokens)
    (read : primary (expressionWithin within) tokens = some (found, rest)) (ends : EndsExpression rest) :
    expressionWithin (token :: within) .whole tokens = some (found, rest) := by
  have alone (operand : Nat → Reader Expression) (line : Nat) :
      operationsWithin operand line 0 rest found rest = some (found, rest) := by
    have stops := ends.connective
    obtain ⟨kind, _, more, rfl, -⟩ := ends
    rw [operationsWithin, stops]
  have operations : operations (expressionWithin within) 0 tokens = some (found, rest) := by
    cases begins with
    | literal value line more =>
      simp only [operations, operandWithin, read, Option.bind_eq_bind, Option.bind_some]
      exact alone _ _
    | name text line more plain =>
      have notNot := ne_of_plain plain (show "not" ∈ Projection.keywords by decide)
      have notAwait := ne_of_plain plain (show "await" ∈ Projection.keywords by decide)
      simp [operations, operandWithin, read, notNot, notAwait]
      exact alone _ _
    | list line more =>
      simp only [operations, operandWithin, read, UnaryOperator.ofMark?, Option.bind_eq_bind, Option.bind_some]
      exact alone _ _
  have notLambda := begins.word (show "lambda" ∈ Projection.keywords by decide)
  simp [expressionWithin, wholeExpression, notLambda, operations, ends.word]

theorem identifier_of_plain (plain : text ∉ Projection.keywords) (line : Nat) (rest : List Token) :
    identifier (⟨.name text, line⟩ :: rest) = some (text, rest) := by
  rw [identifier, if_neg (by simpa using plain)]

theorem constant?_of_plain (plain : text ∉ Projection.keywords) : constant? text = none := by
  unfold constant?
  split
  · exact absurd (by decide) plain
  · exact absurd (by decide) plain
  · exact absurd (by decide) plain
  · rfl

theorem primary_of_name (plain : text ∉ Projection.keywords) (nested : Nested) (line : Nat) (rest : List Token) :
    primary nested (⟨.name text, line⟩ :: rest) = trailersWithin nested line rest ⟨line, .name text⟩ rest := by
  simp [primary, atom, expressionOf, constant?_of_plain plain, identifier_of_plain plain, lineOf]

namespace EndsExpression

theorem whole_name (ends : EndsExpression rest) (plain : text ∉ Projection.keywords) (line : Nat) :
    expressionWithin (token :: within) .whole (⟨.name text, line⟩ :: rest) = some (⟨line, .name text⟩, rest) := by
  refine whole_of_primary (.name text line rest plain) ?_ ends
  rw [primary_of_name plain, ends.trailers]

theorem whole_literal (ends : EndsExpression rest) (value : String) (line : Nat) :
    expressionWithin (token :: within) .whole (⟨.literal (.text value), line⟩ :: rest)
      = some (⟨line, .constant (.text value)⟩, rest) := by
  have read (nested : Nested) :
      literals nested (⟨.literal (.text value), line⟩ :: rest) = some (.constant (.text value), rest) := by
    obtain ⟨kind, _, more, rfl, member⟩ := ends
    rcases kind_cases member with rfl | rfl | rfl | rfl | rfl | rfl <;> simp [literals, textsWithin, plainText]
  refine whole_of_primary (.literal _ line rest) ?_ ends
  simp [primary, atom, expressionOf, read, lineOf, ends.trailers]

end EndsExpression

/-- A class that an object is made of. -/
theorem whole_call (plain : text ∉ Projection.keywords) (line opens closes ends : Nat) (rest : List Token) :
    expressionWithin (token :: within) .whole (⟨.name text, line⟩ :: ⟨.mark "(", opens⟩ :: ⟨.mark ")", closes⟩
        :: ⟨.lineEnd, ends⟩ :: rest)
      = some (⟨line, .call ⟨line, .name text⟩ [] []⟩, ⟨.lineEnd, ends⟩ :: rest) := by
  refine whole_of_primary (.name text line _ plain) ?_ ⟨.lineEnd, ends, rest, rfl, by simp [endings]⟩
  rw [primary_of_name plain]
  rfl

/-- A list with a comma behind each of its items. -/
theorem primary_of_list {nested : Nested} {values : List Expression} {closes : Nat}
    (notEmpty : mark "]" tokens = none)
    (read : listed (element nested) tokens = some (⟨values, true⟩, ⟨.mark "]", closes⟩ :: rest))
    (ends : EndsExpression rest) (line : Nat) :
    primary nested (⟨.mark "[", line⟩ :: tokens) = some (⟨line, .list values⟩, rest) := by
  have list : inSquareBrackets nested tokens = some (.list values, rest) := by
    simp only [inSquareBrackets, notEmpty, read]
    rfl
  have found : atom nested (⟨.mark "[", line⟩ :: tokens) = some (⟨line, .list values⟩, rest) := by
    have whole := congrArg (Option.map fun found => (Expression.mk line found.1, found.2)) list
    exact whole
  simp only [primary, found, Option.bind_eq_bind, Option.bind_some]
  exact ends.trailers _ _ _ _

theorem BeginsExpression.yielded (begins : BeginsExpression tokens) (nested : Nested) :
    Grammar.yielded nested tokens = none := by
  have notYield := begins.word (show "yield" ∈ Projection.keywords by decide)
  simp [Grammar.yielded, expressionOf, notYield]

theorem BeginsExpression.star (begins : BeginsExpression tokens) : mark "*" tokens = none := by
  cases begins <;> rfl

/-- The value of an assignment that is all of its line. -/
theorem assigned_of_whole (begins : BeginsExpression tokens)
    (read : expression .whole tokens = some (found, ⟨.lineEnd, line⟩ :: rest)) :
    assignmentsWithin (token :: within) tokens = some (([], found), ⟨.lineEnd, line⟩ :: rest) := by
  obtain ⟨first, more, rfl⟩ : ∃ first more, tokens = first :: more := by cases begins <;> exact ⟨_, _, rfl⟩
  have noComma : mark "," (⟨.lineEnd, line⟩ :: rest) = none := rfl
  have noEquals : mark "=" (⟨.lineEnd, line⟩ :: rest) = none := rfl
  have single : tuple expression (first :: more) = some (⟨[found], false⟩, ⟨.lineEnd, line⟩ :: rest) := by
    simp [tuple, listed, listedWithin, starredOr, begins.star, read, noComma]
  simp [assignmentsWithin, begins.yielded, single, noEquals, Listing.expression, Listing.single?]

end Expressions

section Repetitions

/-! Repetitions, where each item is read wherever its tokens stand. -/

theorem length_le_flatMap {β γ : Type} {items : List β} {gives : β → List γ}
    (isSome : ∀ item ∈ items, gives item ≠ []) : items.length ≤ (items.flatMap gives).length := by
  induction items with
  | nil => exact Nat.le_refl 0
  | cons item items ih =>
    have here := List.length_pos_of_ne_nil (isSome item List.mem_cons_self)
    have later := ih fun other member => isSome other (List.mem_cons_of_mem _ member)
    rw [List.flatMap_cons, List.length_append, List.length_cons]
    omega

variable {α β : Type} {read : Reader α} {items : List β} {kinds : β → List TokenKind} {means : β → α → Prop}
  {rest : List TokenKind}

theorem repeatedly_numbered
    (each : ∀ item ∈ items, ∀ lines behind, ∃ value further,
      read (numbered lines (kinds item ++ behind)) = some (value, numbered further behind) ∧ means item value)
    (begins : ∀ item ∈ items, kinds item ≠ []) (stops : ∀ lines, read (numbered lines rest) = none)
    (lines : Nat → Nat) :
    ∃ values further, repeatedly read (numbered lines (items.flatMap kinds ++ rest))
      = (values, numbered further rest) ∧ List.Forall₂ means items values := by
  have within : ∀ (bound : List Token) (lines : Nat → Nat), (items.flatMap kinds).length ≤ bound.length →
      ∃ values further, repeatedWithin read bound (numbered lines (items.flatMap kinds ++ rest))
        = (values, numbered further rest) ∧ List.Forall₂ means items values := by
    induction items with
    | nil =>
      intro bound lines _
      refine ⟨[], lines, ?_, .nil⟩
      cases bound with
      | nil => rfl
      | cons _ bound => simp [repeatedWithin, stops]
    | cons item items ih =>
      intro bound lines enough
      have width := List.length_pos_of_ne_nil (begins item List.mem_cons_self)
      rw [List.flatMap_cons, List.length_append] at enough
      obtain ⟨step, bound, rfl⟩ := List.exists_cons_of_length_pos (show 0 < bound.length by omega)
      rw [List.length_cons] at enough
      obtain ⟨value, behind, taken, meant⟩ :=
        each item List.mem_cons_self lines (items.flatMap kinds ++ rest)
      obtain ⟨values, further, others, allMeant⟩ :=
        ih (fun other member => each other (List.mem_cons_of_mem _ member))
          (fun other member => begins other (List.mem_cons_of_mem _ member)) bound behind (by omega)
      refine ⟨value :: values, further, ?_, .cons meant allMeant⟩
      rw [List.flatMap_cons, List.append_assoc, repeatedWithin, taken]
      simp only [others]
  exact within _ lines (by rw [length_numbered]; simp)

/-- Items with commas between them. Where an item ends may depend on what stands behind it. -/
theorem commaSeparated_numbered {first : β} {others : List β} (ends : List TokenKind → Prop)
    (begins : kinds first ≠ [])
    (each : ∀ item ∈ first :: others, ∀ lines behind, ends behind → ∃ value further,
      read (numbered lines (kinds item ++ behind)) = some (value, numbered further behind) ∧ means item value)
    (goesOn : ∀ behind, ends (.mark "," :: behind)) (ended : ends rest)
    (stops : ∀ lines, mark "," (numbered lines rest) = none) (lines : Nat → Nat) :
    ∃ values further, commaSeparated read
        (numbered lines (kinds first ++ (others.flatMap (fun item => .mark "," :: kinds item) ++ rest)))
      = some (values, numbered further rest) ∧ List.Forall₂ means (first :: others) values := by
  have within : ∀ (bound : List Token) (lines : Nat → Nat), others.length < bound.length →
      ∃ values further, separatedWithin (mark ",") read bound
          (numbered lines (kinds first ++ (others.flatMap (fun item => .mark "," :: kinds item) ++ rest)))
        = some (values, numbered further rest) ∧ List.Forall₂ means (first :: others) values := by
    clear begins
    induction others generalizing first with
    | nil =>
      intro bound lines enough
      obtain ⟨step, bound, rfl⟩ := List.exists_cons_of_length_pos enough
      obtain ⟨value, further, taken, meant⟩ := each first List.mem_cons_self lines rest ended
      refine ⟨[value], further, ?_, .cons meant .nil⟩
      rw [List.flatMap_nil, List.nil_append, separatedWithin, taken]
      simp [stops]
    | cons next others ih =>
      intro bound lines enough
      obtain ⟨step, bound, rfl⟩ := List.exists_cons_of_length_pos (Nat.lt_of_le_of_lt (Nat.zero_le _) enough)
      simp only [List.length_cons] at enough
      obtain ⟨value, behind, taken, meant⟩ := each first List.mem_cons_self lines
        (.mark "," :: (kinds next ++ (others.flatMap (fun item => .mark "," :: kinds item) ++ rest))) (goesOn _)
      obtain ⟨values, further, read, allMeant⟩ := ih
        (fun item member => each item (List.mem_cons_of_mem _ member)) bound (fun place => behind (place + 1))
        (by omega)
      refine ⟨value :: values, further, ?_, .cons meant allMeant⟩
      rw [List.flatMap_cons, List.cons_append, List.cons_append, List.append_assoc, separatedWithin, taken]
      simp [numbered, mark, read]
  refine within _ lines ?_
  have commas : others.length ≤ (others.flatMap fun item => .mark "," :: kinds item).length :=
    length_le_flatMap fun item _ => List.cons_ne_nil _ _
  have width := List.length_pos_of_ne_nil begins
  rw [length_numbered, List.length_append, List.length_append]
  omega

/-- Items with a comma behind each. What stands behind them is no item. -/
theorem listed_numbered (isSome : items ≠ [])
    (each : ∀ item ∈ items, ∀ lines behind, ∃ value further,
      read (numbered lines (kinds item ++ .mark "," :: behind)) = some (value, numbered further (.mark "," :: behind))
        ∧ means item value)
    (stops : ∀ lines, read (numbered lines rest) = none) (lines : Nat → Nat) :
    ∃ values further, listed read (numbered lines (items.flatMap (fun item => kinds item ++ [.mark ","]) ++ rest))
      = some (⟨values, true⟩, numbered further rest) ∧ List.Forall₂ means items values := by
  have within : ∀ (bound : List Token) (lines : Nat → Nat), items.length ≤ bound.length →
      ∃ values further, listedWithin read bound
          (numbered lines (items.flatMap (fun item => kinds item ++ [.mark ","]) ++ rest))
        = some (⟨values, true⟩, numbered further rest) ∧ List.Forall₂ means items values := by
    induction items with
    | nil => exact absurd rfl isSome
    | cons item items ih =>
      intro bound lines enough
      rw [List.length_cons] at enough
      obtain ⟨step, bound, rfl⟩ := List.exists_cons_of_length_pos (Nat.lt_of_lt_of_le (Nat.succ_pos _) enough)
      rw [List.length_cons] at enough
      obtain ⟨value, behind, taken, meant⟩ := each item List.mem_cons_self lines
        (items.flatMap (fun item => kinds item ++ [.mark ","]) ++ rest)
      have comma : mark "," (numbered behind
            (.mark "," :: (items.flatMap (fun item => kinds item ++ [.mark ","]) ++ rest)))
          = some (numbered (fun place => behind (place + 1))
              (items.flatMap (fun item => kinds item ++ [.mark ","]) ++ rest)) := rfl
      rw [List.flatMap_cons, List.append_assoc, List.append_assoc, List.singleton_append, listedWithin, taken]
      simp only [Option.bind_eq_bind, Option.bind_some, comma]
      cases items with
      | nil =>
        have ends : listedWithin read bound (numbered (fun place => behind (place + 1)) rest) = none := by
          cases bound with
          | nil => rfl
          | cons _ bound => simp [listedWithin, stops]
        exact ⟨[value], _, by rw [List.flatMap_nil, List.nil_append, ends]; rfl, .cons meant .nil⟩
      | cons next items =>
        obtain ⟨values, further, others, allMeant⟩ := ih (List.cons_ne_nil _ _)
          (fun other member => each other (List.mem_cons_of_mem _ member)) bound (fun place => behind (place + 1))
          (by omega)
        exact ⟨value :: values, further, by rw [others]; rfl, .cons meant allMeant⟩
  refine within _ lines ?_
  have commas : items.length ≤ (items.flatMap fun item => kinds item ++ [.mark ","]).length :=
    length_le_flatMap fun item _ => by simp
  rw [length_numbered, List.length_append]
  omega

end Repetitions

section Statements

/-! Statements. What a statement looks like is told by what it means, whichever lines it is on. -/

/-- Wherever they stand, tokens of these kinds are read as one statement of the given meaning, in blocks that are not
nested deeper than the bound lets them. -/
def Takes (depth : Nat) (kinds : List TokenKind) (means : Statement → Prop) : Prop :=
  ∀ (within : List Token) (lines : Nat → Nat) (rest : List TokenKind), depth < within.length →
    ∃ statement further, statementsWithin within (numbered lines (kinds ++ rest))
      = some ([statement], numbered further rest) ∧ means statement

/-- The tokens of a statement with what it means. -/
abbrev Meaning := List TokenKind × (Statement → Prop)

/-- The statements have these meanings, one after the other. -/
abbrev Meant (items : List Meaning) (statements : List Statement) : Prop :=
  List.Forall₂ (fun item statement => item.2 statement) items statements

variable {depth : Nat} {items : List Meaning}

theorem Takes.mono {kinds : List TokenKind} {means : Statement → Prop} {deeper : Nat} (takes : Takes depth kinds means)
    (bound : depth ≤ deeper) : Takes deeper kinds means := fun within lines rest enough =>
  takes within lines rest (Nat.lt_of_le_of_lt bound enough)

/-- Statements up to the end of the tokens. -/
theorem codeOf_numbered (takes : ∀ item ∈ items, ∃ depth < item.1.length, Takes depth item.1 item.2)
    (lines : Nat → Nat) :
    ∃ code, codeOf (numbered lines (items.flatMap Prod.fst)) = some code ∧
      Meant items code := by
  have within : ∀ (bound : List Token) (lines : Nat → Nat), items.length ≤ bound.length →
      ∃ code, codeWithin bound (numbered lines (items.flatMap Prod.fst)) = some code ∧
        Meant items code := by
    induction items with
    | nil =>
      intro bound lines _
      exact ⟨[], by cases bound <;> rfl, .nil⟩
    | cons item items ih =>
      intro bound lines enough
      rw [List.length_cons] at enough
      obtain ⟨step, bound, rfl⟩ := List.exists_cons_of_length_pos (Nat.lt_of_lt_of_le (Nat.succ_pos _) enough)
      rw [List.length_cons] at enough
      obtain ⟨depth, width, takesHere⟩ := takes item List.mem_cons_self
      have room : depth < (numbered lines (item.1 ++ items.flatMap Prod.fst)).length := by
        rw [length_numbered, List.length_append]
        omega
      obtain ⟨statement, further, taken, meant⟩ := takesHere _ lines (items.flatMap Prod.fst) room
      obtain ⟨code, others, allMeant⟩ :=
        ih (fun other member => takes other (List.mem_cons_of_mem _ member)) bound further (by omega)
      obtain ⟨token, tokens, shape⟩ :
          ∃ token tokens, numbered lines (item.1 ++ items.flatMap Prod.fst) = token :: tokens :=
        List.exists_cons_of_length_pos (Nat.lt_of_le_of_lt (Nat.zero_le _) room)
      refine ⟨statement :: code, ?_, .cons meant allMeant⟩
      rw [List.flatMap_cons, shape, codeWithin.eq_3 _ _ _ (List.cons_ne_nil _ _), ← shape, taken]
      simp [others]
  refine within _ lines ?_
  rw [length_numbered]
  refine length_le_flatMap fun item member => ?_
  obtain ⟨depth, width, _⟩ := takes item member
  exact List.ne_nil_of_length_pos (Nat.lt_of_le_of_lt (Nat.zero_le _) width)

/-- The statements of a block up to where it ends. -/
theorem statementsUntilDedent_numbered {within : List Token} (isSome : items ≠ []) (enough : depth < within.length)
    (takes : ∀ item ∈ items, Takes depth item.1 item.2)
    (begins : ∀ item ∈ items, ∃ kind kinds, item.1 = kind :: kinds ∧ kind ≠ .dedent) (rest : List TokenKind)
    (bound : List Token) (long : items.length ≤ bound.length) (lines : Nat → Nat) :
    ∃ statements further, statementsUntilDedent (statementsWithin within) bound
        (numbered lines (items.flatMap Prod.fst ++ .dedent :: rest))
      = some (statements, numbered further rest) ∧
      Meant items statements := by
  induction items generalizing bound lines with
  | nil => exact absurd rfl isSome
  | cons item items ih =>
    rw [List.length_cons] at long
    obtain ⟨step, bound, rfl⟩ := List.exists_cons_of_length_pos (Nat.lt_of_lt_of_le (Nat.succ_pos _) long)
    rw [List.length_cons] at long
    obtain ⟨statement, behind, taken, meant⟩ :=
      takes item List.mem_cons_self within lines (items.flatMap Prod.fst ++ .dedent :: rest) enough
    rw [List.flatMap_cons, List.append_assoc, statementsUntilDedent, taken]
    simp only [Option.bind_eq_bind, Option.bind_some]
    cases items with
    | nil => exact ⟨[statement], _, rfl, .cons meant .nil⟩
    | cons next items =>
      obtain ⟨statements, further, others, allMeant⟩ := ih (List.cons_ne_nil _ _)
        (fun other member => takes other (List.mem_cons_of_mem _ member))
        (fun other member => begins other (List.mem_cons_of_mem _ member)) bound (by omega) behind
      obtain ⟨kind, kinds, shape, notDedent⟩ := begins next (by simp)
      refine ⟨statement :: statements, further, ?_, .cons meant allMeant⟩
      rw [List.flatMap_cons, shape, List.cons_append, List.cons_append, numbered] at others ⊢
      split
      · rename_i same
        exact absurd (congrArg Token.kind (List.cons.inj same).1) notDedent
      · rw [others]
        rfl

/-- A block behind a colon, up to where it ends. -/
theorem block_numbered {within : List Token} (isSome : items ≠ []) (enough : depth < within.length)
    (takes : ∀ item ∈ items, Takes depth item.1 item.2)
    (begins : ∀ item ∈ items, ∃ kind kinds, item.1 = kind :: kinds ∧ kind ≠ .dedent) (rest : List TokenKind)
    (lines : Nat → Nat) :
    ∃ body further, block (statementsWithin within) (numbered lines (.mark ":" :: .lineEnd :: .indent ::
        (items.flatMap Prod.fst ++ .dedent :: rest))) = some (body, numbered further rest) ∧
      Meant items body := by
  have each : ∀ item ∈ items, item.1 ≠ [] := fun item member none => by
    obtain ⟨kind, kinds, shape, _⟩ := begins item member
    rw [shape] at none
    cases none
  have kinds := length_le_flatMap each
  refine statementsUntilDedent_numbered isSome enough takes begins rest _ ?_ _
  rw [length_numbered, List.length_append]
  omega

end Statements

section Lines

/-! Lines of generated code. -/

/-- What a statement looks like on given lines. -/
abbrev Shape := (Nat → Nat) → Statement

/-- The statement looks like this, whichever lines it is on. -/
def Shape.Fits (shape : Shape) (statement : Statement) : Prop := ∃ lines, statement = shape lines

def documenting (text : String) : Shape := fun lines =>
  ⟨lines 0, .expression ⟨lines 0, .constant (.text text)⟩⟩

def recording (fieldName : String) (value : ExpressionForm) : Shape := fun lines =>
  ⟨lines 0, .assignment [⟨lines 0, .index ⟨lines 0, .member ⟨lines 0, .name "self"⟩ "fields"⟩
    ⟨lines 4, .constant (.text fieldName)⟩⟩] ⟨lines 7, value⟩⟩

def returning (name : String) : Shape := fun lines => ⟨lines 0, .result (some ⟨lines 1, .name name⟩)⟩

def creating (localClass : String) : Shape := fun lines =>
  ⟨lines 0, .assignment [⟨lines 0, .name "projection"⟩] ⟨lines 2, .call ⟨lines 2, .name localClass⟩ [] []⟩⟩

def calling : Shape := fun lines =>
  ⟨lines 0, .expression ⟨lines 0, .call ⟨lines 0, .name "init_block"⟩ [⟨lines 2, .name "projection"⟩] []⟩⟩

def passing : Shape := fun lines => ⟨lines 0, .pass⟩

variable {method : Method} {within : List Token}

theorem takes_documenting (text : String) :
    Takes 0 (lineKinds [.documentation text]) (documenting (Docstring.asRead text)).Fits := by
  intro within lines rest room
  obtain ⟨token, within, rfl⟩ := List.exists_cons_of_length_pos room
  exact ⟨_, _, rfl, lines, rfl⟩

theorem takes_passing : Takes 0 (lineKinds [.word "pass"]) passing.Fits := by
  intro within lines rest room
  obtain ⟨token, within, rfl⟩ := List.exists_cons_of_length_pos room
  exact ⟨_, _, rfl, lines, rfl⟩

theorem simpleLine_of_form {token : Token} {tokens rest : List Token} {form : StatementForm} {line : Nat}
    (read : simpleForm (token :: tokens) = some (form, ⟨.lineEnd, line⟩ :: rest)) :
    simpleLine (token :: tokens) = some ([⟨token.line, form⟩], rest) := by
  have noMore : mark ";" (⟨.lineEnd, line⟩ :: rest) = none := rfl
  simp [simpleLine, simpleLineWithin, simpleStatement, read, noMore, lineEnd, lineOf]

/-- What a name is assigned behind the mark. -/
theorem behindExpressions_of_assigned {name : String} {value : Expression} {tokens rest : List Token}
    (assigned : assignmentsWithin tokens tokens = some (([], value), rest)) (line marked : Nat) (inBrackets : Bool) :
    behindExpressions ⟨[⟨line, .name name⟩], false⟩ ⟨line, .name name⟩ inBrackets (⟨.mark "=", marked⟩ :: tokens)
      = some (.assignment [⟨line, .name name⟩] value, rest) := by
  have noUpdate : updateOperator? "=" = none := by decide
  have isTarget : (⟨line, .name name⟩ : Expression).isTarget = true := rfl
  simp [behindExpressions, noUpdate, isTarget, assigned]

theorem takes_creating {localClass : String} (plain : localClass ∉ Projection.keywords) :
    Takes 0 (lineKinds [.word "projection", .blank, .sign .equals, .blank, .word localClass, .sign .parenOpen,
      .sign .parenClose]) (creating localClass).Fits := by
  intro within lines rest room
  obtain ⟨token, within, rfl⟩ := List.exists_cons_of_length_pos room
  let value := numbered (fun place => lines (place + 2))
    (.name localClass :: .mark "(" :: .mark ")" :: .lineEnd :: rest)
  have assigned : assignmentsWithin value value
      = some (([], ⟨lines 2, .call ⟨lines 2, .name localClass⟩ [] []⟩),
          numbered (fun place => lines (place + 5)) (.lineEnd :: rest)) :=
    assigned_of_whole (.name _ _ _ plain) (whole_call plain _ _ _ _ _)
  have form : simpleForm (⟨.name "projection", lines 0⟩ :: ⟨.mark "=", lines 1⟩ :: value)
      = some (.assignment [⟨lines 0, .name "projection"⟩] ⟨lines 2, .call ⟨lines 2, .name localClass⟩ [] []⟩,
          numbered (fun place => lines (place + 5)) (.lineEnd :: rest)) :=
    behindExpressions_of_assigned assigned _ (lines 1) false
  exact ⟨_, _, simpleLine_of_form form, lines, rfl⟩

/-- Documentation on a line of its own. -/
def documentationMeanings : Option String → List Meaning
  | none => []
  | some text => [(lineKinds [.documentation text], (documenting (Docstring.asRead text)).Fits)]

theorem takes_documentation (description : Option String) :
    ∀ item ∈ documentationMeanings description, Takes 0 item.1 item.2 := by
  cases description with
  | none => simp [documentationMeanings]
  | some text => simpa [documentationMeanings] using takes_documenting text

end Lines

/-- A function by its parts. -/
theorem functionDefinition_of_parts {statements : Statements} {name : String} {taken : Parameters}
    {result : Option Expression} {body : List Statement} {tokens arrow colon rest : List Token}
    (plain : name ∉ Projection.keywords) (named opened : Nat)
    (parametersRead : parameters expression true ")" tokens = some (taken, arrow))
    (resultRead : behind (mark "->") (expression .whole) arrow = some (result, colon))
    (bodyRead : block statements colon = some (body, rest)) :
    functionDefinition statements false [] (⟨.name name, named⟩ :: ⟨.mark "(", opened⟩ :: tokens)
      = some (.function false name taken result [] body, rest) := by
  have opens : mark "(" (⟨.mark "(", opened⟩ :: tokens) = some tokens := rfl
  simp [functionDefinition, identifier_of_plain plain, opens, parametersRead, resultRead, bodyRead]

end Grammar

open Grammar

namespace Method

/-- The lines of a method behind its documentation. -/
def bodyMeanings (method : Method) : List Meaning :=
  match method.body with
  | .leaf =>
    [(lineKinds (method.recordLine "None"), (recording method.fieldName (.constant .nothing)).Fits),
      (lineKinds [.word "return", .blank, .word "self"], (returning "self").Fits)]
  | .composite localClass =>
    [(lineKinds [.word "projection", .blank, .sign .equals, .blank, .word localClass, .sign .parenOpen,
        .sign .parenClose], (creating localClass).Fits),
      (lineKinds (method.recordLine "projection"), (recording method.fieldName (.name "projection")).Fits),
      (lineKinds [.word "init_block", .sign .parenOpen, .word "projection", .sign .parenClose], calling.Fits),
      (lineKinds [.word "return", .blank, .word "projection"], (returning "projection").Fits)]

def meanings (method : Method) : List Meaning := documentationMeanings method.description ++ method.bodyMeanings

/-- The function that a method is, on given lines and with a given body. -/
def function (owner : String) (method : Method) (lines : Nat → Nat) (body : List Statement) : Statement :=
  let self : Parameter := ⟨lines 3, "self", none, none⟩
  match method.body with
  | .leaf =>
    ⟨lines 0, .function false method.name ⟨[], [self], none, [], none⟩ (some ⟨lines 6, .constant (.text owner)⟩) []
      body⟩
  | .composite localClass =>
    let callback : Expression := ⟨lines 7, .index ⟨lines 7, .name "Callable"⟩ ⟨lines 9, .tuple
      [⟨lines 9, .list [⟨lines 10, .constant (.text localClass)⟩]⟩, ⟨lines 13, .name "Any"⟩]⟩⟩
    ⟨lines 0, .function false method.name
      ⟨[], [self, ⟨lines 5, "init_block", some callback, none⟩], none, [], none⟩
      (some ⟨lines 17, .constant (.text localClass)⟩) [] body⟩

def Means (owner : String) (method : Method) (statement : Statement) : Prop :=
  ∃ lines body, statement = method.function owner lines body ∧
    Meant method.meanings body

/-- No name of the method is a word that the language keeps for itself. -/
structure Plain (method : Method) : Prop where
  name : method.name ∉ Projection.keywords
  localClass : ∀ localClass, method.body = .composite localClass → localClass ∉ Projection.keywords

variable {method : Method} {owner : String}

theorem takes_meanings (plain : method.Plain) : ∀ item ∈ method.meanings, Takes 0 item.1 item.2 := by
  refine List.forall_mem_append.mpr ⟨takes_documentation _, ?_⟩
  unfold bodyMeanings
  have room {within : List Token} (room : 0 < within.length) : ∃ token rest, within = token :: rest :=
    List.exists_cons_of_length_pos room
  cases body : method.body with
  | leaf =>
    simp only [List.mem_cons, List.not_mem_nil, or_false, forall_eq_or_imp, forall_eq]
    constructor <;> intro within lines rest enough <;> obtain ⟨token, within, rfl⟩ := room enough
    · exact ⟨_, _, rfl, lines, rfl⟩
    · exact ⟨_, _, rfl, lines, rfl⟩
  | composite localClass =>
    simp only [List.mem_cons, List.not_mem_nil, or_false, forall_eq_or_imp, forall_eq]
    refine ⟨takes_creating (plain.localClass localClass body), ?_, ?_, ?_⟩ <;> intro within lines rest enough <;>
      obtain ⟨token, within, rfl⟩ := room enough
    · exact ⟨_, _, rfl, lines, rfl⟩
    · exact ⟨_, _, rfl, lines, rfl⟩
    · exact ⟨_, _, rfl, lines, rfl⟩

theorem meanings_kinds (method : Method) : method.meanings.flatMap Prod.fst
    = (documentationLines method.description ++ method.bodyLines).flatMap lineKinds := by
  unfold meanings bodyMeanings bodyLines
  cases method.description <;> cases method.body <;> rfl

theorem meanings_begin (method : Method) :
    ∀ item ∈ method.meanings, ∃ kind kinds, item.1 = kind :: kinds ∧ kind ≠ .dedent := by
  unfold meanings bodyMeanings
  cases method.description <;> cases method.body <;>
    simp [documentationMeanings, lineKinds, Part.kinds, recordLine]

theorem meanings_ne_nil (method : Method) : method.meanings ≠ [] := by
  unfold meanings bodyMeanings
  cases method.body <;> simp

theorem block_meanings (plain : method.Plain) {within : List Token} (enough : 0 < within.length) (rest : List TokenKind)
    (lines : Nat → Nat) :
    ∃ body further, block (statementsWithin within) (numbered lines (.mark ":" :: .lineEnd :: .indent ::
        (method.meanings.flatMap Prod.fst ++ .dedent :: rest))) = some (body, numbered further rest) ∧
      Meant method.meanings body :=
  block_numbered method.meanings_ne_nil enough (takes_meanings plain) method.meanings_begin rest lines

theorem takes (plain : method.Plain) : Takes 1 (method.tokenKinds owner) (method.Means owner) := by
  intro within lines rest enough
  obtain ⟨token, within, rfl⟩ := List.exists_cons_of_length_pos (Nat.lt_trans Nat.one_pos enough)
  have inside : 0 < within.length := Nat.lt_of_succ_lt_succ enough
  have kinds : method.tokenKinds owner ++ rest = lineKinds (method.headLine owner) ++ .indent ::
      (method.meanings.flatMap Prod.fst ++ .dedent :: rest) := by
    rw [tokenKinds, meanings_kinds]
    simp
  let colon : List TokenKind :=
    .mark ":" :: .lineEnd :: .indent :: (method.meanings.flatMap Prod.fst ++ .dedent :: rest)
  rw [kinds]
  cases shape : method.body with
  | leaf =>
    obtain ⟨body, further, bodyRead, meant⟩ := block_meanings plain inside rest fun place => lines (place + 7)
    refine ⟨method.function owner lines body, further, ?_, lines, body, rfl, meant⟩
    have parametersRead : parameters expression true ")" (numbered (fun place => lines (place + 3))
        (.name "self" :: .mark ")" :: .mark "->" :: .literal (.text owner) :: colon))
      = some (⟨[], [⟨lines 3, "self", none, none⟩], none, [], none⟩,
          numbered (fun place => lines (place + 5)) (.mark "->" :: .literal (.text owner) :: colon)) := rfl
    have resultRead : behind (mark "->") (expression .whole) (numbered (fun place => lines (place + 5))
        (.mark "->" :: .literal (.text owner) :: colon))
      = some (some ⟨lines 6, .constant (.text owner)⟩, numbered (fun place => lines (place + 7)) colon) := rfl
    have read := functionDefinition_of_parts plain.name (lines 1) (lines 2) parametersRead resultRead bodyRead
    have whole := congrArg (Option.map fun found => ([Statement.mk (lines 0) found.1], found.2)) read
    simp only [headLine, shape, function]
    exact whole
  | composite localClass =>
    obtain ⟨body, further, bodyRead, meant⟩ := block_meanings plain inside rest fun place => lines (place + 18)
    refine ⟨method.function owner lines body, further, ?_, lines, body, rfl, meant⟩
    let arrow : List TokenKind := .mark "->" :: .literal (.text localClass) :: colon
    have parametersRead : parameters expression true ")" (numbered (fun place => lines (place + 3))
        (.name "self" :: .mark "," :: .name "init_block" :: .mark ":" :: .name "Callable" :: .mark "[" :: .mark "["
          :: .literal (.text localClass) :: .mark "]" :: .mark "," :: .name "Any" :: .mark "]" :: .mark ")" :: arrow))
      = some (⟨[], [⟨lines 3, "self", none, none⟩, ⟨lines 5, "init_block", some ⟨lines 7, .index
          ⟨lines 7, .name "Callable"⟩ ⟨lines 9, .tuple [⟨lines 9, .list [⟨lines 10, .constant (.text localClass)⟩]⟩,
            ⟨lines 13, .name "Any"⟩]⟩⟩, none⟩], none, [], none⟩,
          numbered (fun place => lines (place + 16)) arrow) := rfl
    have resultRead : behind (mark "->") (expression .whole) (numbered (fun place => lines (place + 16)) arrow)
      = some (some ⟨lines 17, .constant (.text localClass)⟩, numbered (fun place => lines (place + 18)) colon) := rfl
    have read := functionDefinition_of_parts plain.name (lines 1) (lines 2) parametersRead resultRead bodyRead
    have whole := congrArg (Option.map fun found => ([Statement.mk (lines 0) found.1], found.2)) read
    simp only [headLine, shape, function]
    exact whole

end Method

namespace ClassDeclaration

/-- What stands in the body of a class. -/
def meanings (declaration : ClassDeclaration) : List Meaning :=
  (if declaration.description.isNone && declaration.methods.isEmpty then [(lineKinds [.word "pass"], passing.Fits)]
    else documentationMeanings declaration.description)
  ++ declaration.methods.map fun method => (method.tokenKinds declaration.name, method.Means declaration.name)

/-- The expression is a name alone. -/
def IsName (name : String) (expression : Expression) : Prop := ∃ line, expression = ⟨line, .name name⟩

def Means (declaration : ClassDeclaration) (statement : Statement) : Prop :=
  ∃ line base decorators body,
    statement = ⟨line, .type declaration.name [base] [] decorators body⟩ ∧ IsName declaration.base base ∧
    List.Forall₂ IsName declaration.decorators decorators ∧
    Meant declaration.meanings body

/-- No name of the class is a word that the language keeps for itself. -/
structure Plain (declaration : ClassDeclaration) : Prop where
  name : declaration.name ∉ Projection.keywords
  base : declaration.base ∉ Projection.keywords
  decorators : ∀ name ∈ declaration.decorators, name ∉ Projection.keywords
  methods : ∀ method ∈ declaration.methods, method.Plain

variable {declaration : ClassDeclaration}

theorem takes_meanings (plain : declaration.Plain) : ∀ item ∈ declaration.meanings, Takes 1 item.1 item.2 := by
  refine List.forall_mem_append.mpr ⟨fun item member => ?_, List.forall_mem_map.mpr fun method member =>
    Method.takes (plain.methods method member)⟩
  split_ifs at member
  · obtain rfl := List.mem_singleton.mp member
    exact takes_passing.mono (Nat.zero_le 1)
  · exact (takes_documentation _ item member).mono (Nat.zero_le 1)

theorem meanings_kinds (declaration : ClassDeclaration) :
    declaration.meanings.flatMap Prod.fst = declaration.openingLines.flatMap lineKinds
      ++ declaration.methods.flatMap (Method.tokenKinds declaration.name) := by
  unfold meanings openingLines
  rw [List.flatMap_append, List.flatMap_map]
  split_ifs
  · rfl
  · cases declaration.description <;> rfl

theorem meanings_begin (declaration : ClassDeclaration) :
    ∀ item ∈ declaration.meanings, ∃ kind kinds, item.1 = kind :: kinds ∧ kind ≠ .dedent := by
  refine List.forall_mem_append.mpr ⟨fun item member => ?_, List.forall_mem_map.mpr fun method _ => ?_⟩
  · split_ifs at member
    · obtain rfl := List.mem_singleton.mp member
      exact ⟨_, _, rfl, nofun⟩
    · cases described : declaration.description with
      | none => simp [described, documentationMeanings] at member
      | some text =>
        simp only [described, documentationMeanings, List.mem_singleton] at member
        subst member
        exact ⟨_, _, rfl, nofun⟩
  · exact ⟨.name "def", _, rfl, nofun⟩

theorem meanings_ne_nil (declaration : ClassDeclaration) : declaration.meanings ≠ [] := by
  unfold meanings
  split_ifs with bare
  · simp
  · cases described : declaration.description with
    | none =>
      have declared : declaration.methods ≠ [] := by simpa [described] using bare
      simp [declared]
    | some text => simp [documentationMeanings]

theorem block_meanings (plain : declaration.Plain) {within : List Token} (enough : 1 < within.length)
    (rest : List TokenKind) (lines : Nat → Nat) :
    ∃ body further, block (statementsWithin within) (numbered lines (.mark ":" :: .lineEnd :: .indent ::
        (declaration.meanings.flatMap Prod.fst ++ .dedent :: rest))) = some (body, numbered further rest) ∧
      Meant declaration.meanings body :=
  block_numbered declaration.meanings_ne_nil enough (takes_meanings plain) declaration.meanings_begin rest lines

/-- Decorators stand on lines of their own. -/
theorem decorators_read (plain : ∀ name ∈ declaration.decorators, name ∉ Projection.keywords) (rest : List TokenKind)
    (lines : Nat → Nat) :
    ∃ decorators further, repeatedly decorator (numbered lines
        (declaration.decorators.flatMap (fun name => lineKinds (decoratorLine name)) ++ .name "class" :: rest))
      = (decorators, numbered further (.name "class" :: rest)) ∧
      List.Forall₂ IsName declaration.decorators decorators := by
  refine repeatedly_numbered (fun name member lines behind => ?_) (fun name _ => List.cons_ne_nil _ _)
    (fun lines => rfl) lines
  have read : expression .whole (numbered (fun place => lines (place + 1)) (.name name :: .lineEnd :: behind))
      = some (⟨lines 1, .name name⟩, numbered (fun place => lines (place + 2)) (.lineEnd :: behind)) :=
    EndsExpression.whole_name ⟨.lineEnd, _, _, rfl, by simp [endings]⟩ (plain name member) _
  have unbound : boundName (numbered (fun place => lines (place + 1)) (.name name :: .lineEnd :: behind)) = none := rfl
  refine ⟨⟨lines 1, .name name⟩, fun place => lines (place + 3), ?_, lines 1, rfl⟩
  show (named expression (numbered (fun place => lines (place + 1)) (.name name :: .lineEnd :: behind))).bind _ = _
  simp only [named, unbound, read, Option.bind_eq_bind, Option.bind_some]
  rfl

/-- A class behind its keyword. -/
theorem classDefinition_read (plain : declaration.Plain) {within : List Token} (enough : 1 < within.length)
    (decorators : List Expression) (rest : List TokenKind) (lines : Nat → Nat) :
    ∃ base body further, classDefinition (statementsWithin within) decorators (numbered lines
        (.name declaration.name :: .mark "(" :: .name declaration.base :: .mark ")" :: .mark ":" :: .lineEnd :: .indent
          :: (declaration.meanings.flatMap Prod.fst ++ .dedent :: rest)))
      = some (.type declaration.name [base] [] decorators body, numbered further rest) ∧ IsName declaration.base base ∧
      Meant declaration.meanings body := by
  obtain ⟨body, further, bodyRead, meant⟩ := block_meanings plain enough rest fun place => lines (place + 4)
  refine ⟨⟨lines 2, .name declaration.base⟩, body, further, ?_, ⟨lines 2, rfl⟩, meant⟩
  let colon : List TokenKind :=
    .mark ":" :: .lineEnd :: .indent :: (declaration.meanings.flatMap Prod.fst ++ .dedent :: rest)
  let tokens := numbered (fun place => lines (place + 2)) (.name declaration.base :: .mark ")" :: colon)
  have read : expression .whole tokens = some (⟨lines 2, .name declaration.base⟩,
      numbered (fun place => lines (place + 3)) (.mark ")" :: colon)) :=
    EndsExpression.whole_name ⟨.mark ")", _, _, rfl, by simp [endings]⟩ plain.base _
  have notKeyword : keywordName tokens = none := by
    show (identifier tokens).bind _ = none
    rw [show identifier tokens = _ from identifier_of_plain plain.base _ _]
    rfl
  have unbound : boundName tokens = none := rfl
  have notMapping : mark "**" tokens = none := rfl
  have notStarred : mark "*" tokens = none := rfl
  have argumentRead : argument expression .positional tokens = some ((.positional,
      .byPlace ⟨lines 2, .name declaration.base⟩), numbered (fun place => lines (place + 3)) (.mark ")" :: colon)) := by
    simp [argument, notMapping, notStarred, notKeyword, named, unbound, read]
  have given : arguments expression (lines 1) .positional tokens
      = some (([⟨lines 2, .name declaration.base⟩], []), numbered (fun place => lines (place + 4)) colon) := by
    have isOpen : mark ")" tokens = none := rfl
    have step : argumentsWithin expression (lines 1) tokens .positional tokens
        = some ([.byPlace ⟨lines 2, .name declaration.base⟩], numbered (fun place => lines (place + 4)) colon) := by
      rw [show tokens = ⟨.name declaration.base, lines 2⟩ :: numbered (fun place => lines (place + 3))
        (.mark ")" :: colon) from rfl] at isOpen argumentRead ⊢
      simp only [argumentsWithin, isOpen, argumentRead, Option.bind_eq_bind, Option.bind_some]
      rfl
    simp only [arguments, step, Option.bind_eq_bind, Option.bind_some]
    rfl
  show (identifier (⟨.name declaration.name, lines 0⟩ :: ⟨.mark "(", lines 1⟩ :: tokens)).bind _ = _
  rw [identifier_of_plain plain.name]
  simp only [Option.bind_eq_bind, Option.bind_some, given]
  rw [bodyRead]
  rfl

/-- The tokens of a class behind its decorators. -/
def undecoratedKinds (declaration : ClassDeclaration) (rest : List TokenKind) : List TokenKind :=
  .name "class" :: .name declaration.name :: .mark "(" :: .name declaration.base :: .mark ")" :: .mark ":" :: .lineEnd
    :: .indent :: (declaration.meanings.flatMap Prod.fst ++ .dedent :: rest)

theorem takes (plain : declaration.Plain) : Takes 2 declaration.tokenKinds declaration.Means := by
  intro within lines rest enough
  obtain ⟨token, within, rfl⟩ := List.exists_cons_of_length_pos (Nat.lt_trans Nat.two_pos enough)
  have inside : 1 < within.length := Nat.lt_of_succ_lt_succ enough
  have kinds : declaration.tokenKinds ++ rest
      = declaration.decorators.flatMap (fun name => lineKinds (decoratorLine name))
        ++ declaration.undecoratedKinds rest := by
    rw [tokenKinds, undecoratedKinds, meanings_kinds]
    simp [headLine, lineKinds, Part.kinds, Sign.text, List.flatMap_map]
  have undecorated (decorators : List Expression) (behind : Nat → Nat) :
      ∃ base body further, single (definition (statementsWithin within) decorators)
          (numbered behind (declaration.undecoratedKinds rest))
        = some ([⟨behind 0, .type declaration.name [base] [] decorators body⟩], numbered further rest) ∧
        IsName declaration.base base ∧
        Meant declaration.meanings body := by
    obtain ⟨base, body, further, read, isBase, meant⟩ :=
      classDefinition_read plain inside decorators rest fun place => behind (place + 1)
    have whole := congrArg (Option.map fun found => ([Statement.mk (behind 0) found.1], found.2)) read
    exact ⟨base, body, further, whole, isBase, meant⟩
  obtain ⟨decorators, behind, decorated, named⟩ :=
    decorators_read plain.decorators (declaration.undecoratedKinds rest).tail lines
  rw [kinds]
  -- A class without decorators begins with its keyword, and one with decorators begins with them.
  cases shape : declaration.decorators with
  | nil =>
    obtain ⟨base, body, further, read, isBase, meant⟩ := undecorated [] lines
    exact ⟨_, further, read, lines 0, base, [], body, rfl, isBase, by rw [shape]; exact .nil, meant⟩
  | cons first others =>
    obtain ⟨base, body, further, read, isBase, meant⟩ := undecorated decorators behind
    rw [shape] at decorated
    have step : statementsWithin (token :: within) (numbered lines ((first :: others).flatMap
          (fun name => lineKinds (decoratorLine name)) ++ declaration.undecoratedKinds rest))
        = (let decorated := repeatedly decorator (numbered lines ((first :: others).flatMap
            (fun name => lineKinds (decoratorLine name)) ++ declaration.undecoratedKinds rest))
          single (definition (statementsWithin within) decorated.1) decorated.2) := rfl
    have begins : declaration.undecoratedKinds rest = .name "class" :: (declaration.undecoratedKinds rest).tail := rfl
    rw [step, begins, decorated]
    exact ⟨_, further, read, behind 0, base, decorators, body, rfl, isBase, named, meant⟩

end ClassDeclaration

/-! Imports. -/

namespace Import

/-- The entry that an imported name is written as. -/
def entryOf (found : ImportedName) : ImportEntry := ⟨found.name, found.alias?⟩

/-- The statement imports these entries from a module, up to as many packages above this one as there are dots. -/
def Imports (dots : Nat) (source : String) (entries : List ImportEntry) (statement : Statement) : Prop :=
  ∃ line names, statement = ⟨line, .importsFrom dots (some source) (some names)⟩ ∧ entries = names.map entryOf

def Means (item : Import) : Statement → Prop := Imports 0 item.source item.entries

/-- No name of the import is a word that the language keeps for itself. -/
structure Plain (item : Import) : Prop where
  isSome : item.entries ≠ []
  source : ∀ part ∈ Text.pieces '.' item.source, part ∉ Projection.keywords
  names : ∀ entry ∈ item.entries, entry.name ∉ Projection.keywords
  aliases : ∀ entry ∈ item.entries, ∀ bound ∈ entry.alias?, bound ∉ Projection.keywords

variable {item : Import}

/-- Names with dots between them, up to something that does not go on with them. -/
theorem dottedNames_numbered {first : String} {others : List String}
    (plain : ∀ part ∈ first :: others, part ∉ Projection.keywords) {rest : List TokenKind}
    (stops : ∀ lines, (mark "." (numbered lines rest)).bind identifier = none) (lines : Nat → Nat) :
    ∃ further, dottedNames (numbered lines
        (.name first :: (others.flatMap (fun part => [.mark ".", .name part]) ++ rest)))
      = some (first :: others, numbered further rest) := by
  let continued : Reader String := fun tokens => do identifier (← mark "." tokens)
  let partKinds (part : String) : List TokenKind := [.mark ".", .name part]
  obtain ⟨values, further, read, meant⟩ : ∃ values further,
      repeatedly continued (numbered (fun place => lines (place + 1)) (others.flatMap partKinds ++ rest))
        = (values, numbered further rest) ∧ List.Forall₂ (fun part found => part = found) others values :=
    repeatedly_numbered (fun part member lines behind => ⟨part, fun place => lines (place + 2),
        identifier_of_plain (plain part (List.mem_cons_of_mem _ member)) (lines 1) (numbered _ behind), rfl⟩)
      (fun part _ => List.cons_ne_nil _ _) stops _
  rw [List.forall₂_eq_eq_eq] at meant
  subst meant
  have firstRead : identifier (numbered lines (.name first :: (others.flatMap partKinds ++ rest)))
      = some (first, numbered (fun place => lines (place + 1)) (others.flatMap partKinds ++ rest)) :=
    identifier_of_plain (plain _ List.mem_cons_self) _ _
  refine ⟨further, ?_⟩
  show ((identifier _).bind fun found =>
    some (found.1 :: (repeatedly continued found.2).1, (repeatedly continued found.2).2)) = _
  rw [firstRead]
  simp only [Option.bind_some, read]

/-- The tokens of a dotted name. -/
theorem dottedParts_kinds {source first : String} {others : List String}
    (pieces : Text.pieces '.' source = first :: others) :
    (dottedParts source).flatMap Part.kinds = .name first :: others.flatMap fun part => [.mark ".", .name part] := by
  rw [dottedParts, pieces]
  simp [Part.kinds, Sign.text, List.flatMap_assoc]

/-- Names with dots between them are the name of one module. -/
theorem moduleName_of_names {first : String} {others : List String}
    (plain : ∀ part ∈ first :: others, part ∉ Projection.keywords) {rest : List TokenKind}
    (stops : ∀ lines, (mark "." (numbered lines rest)).bind identifier = none) (lines : Nat → Nat) :
    ∃ further, moduleName (numbered lines
        (.name first :: (others.flatMap (fun part => [.mark ".", .name part]) ++ rest)))
      = some (".".intercalate (first :: others), numbered further rest) := by
  obtain ⟨further, names⟩ := dottedNames_numbered plain stops lines
  refine ⟨further, ?_⟩
  rw [moduleName, names, Option.map_some]

/-- A dotted name up to something that does not go on with it. -/
theorem moduleName_numbered {source : String} (plain : ∀ part ∈ Text.pieces '.' source, part ∉ Projection.keywords)
    {rest : List TokenKind} (stops : ∀ lines, (mark "." (numbered lines rest)).bind identifier = none)
    (lines : Nat → Nat) :
    ∃ further, moduleName (numbered lines ((dottedParts source).flatMap Part.kinds ++ rest))
      = some (source, numbered further rest) := by
  obtain ⟨first, others, pieces⟩ := List.exists_cons_of_ne_nil (Text.pieces_ne_nil '.' source)
  have whole : ".".intercalate (first :: others) = source := pieces ▸ Text.intercalate_pieces rfl source
  rw [dottedParts_kinds pieces, List.cons_append]
  exact whole ▸ moduleName_of_names (pieces ▸ plain) stops lines

/-- An entry up to something that binds no other name. -/
theorem entry_numbered {entry : ImportEntry} (plain : entry.name ∉ Projection.keywords)
    (boundPlain : ∀ bound ∈ entry.alias?, bound ∉ Projection.keywords) {rest : List TokenKind}
    (stops : ∀ lines, word "as" (numbered lines rest) = none) (lines : Nat → Nat) :
    ∃ found further, aliased identifier (numbered lines ((entryParts entry).flatMap Part.kinds ++ rest))
      = some (found, numbered further rest) ∧ entry = entryOf found := by
  obtain ⟨name, alias?⟩ := entry
  have read (behind : List TokenKind) : identifier (numbered lines (.name name :: behind))
      = some (name, numbered (fun place => lines (place + 1)) behind) := identifier_of_plain plain _ _
  cases alias? with
  | none =>
    refine ⟨⟨lines 0, name, none⟩, fun place => lines (place + 1), ?_, rfl⟩
    show aliased identifier (numbered lines (.name name :: rest)) = _
    simp only [aliased, read, Option.bind_eq_bind, Option.bind_some, Grammar.behind, stops]
    rfl
  | some bound =>
    have asRead : word "as" (numbered (fun place => lines (place + 1)) (.name "as" :: .name bound :: rest))
        = some (numbered (fun place => lines (place + 2)) (.name bound :: rest)) := rfl
    have boundRead : identifier (numbered (fun place => lines (place + 2)) (.name bound :: rest))
        = some (bound, numbered (fun place => lines (place + 3)) rest) := identifier_of_plain (boundPlain bound rfl) _ _
    refine ⟨⟨lines 0, name, some bound⟩, fun place => lines (place + 3), ?_, rfl⟩
    show aliased identifier (numbered lines (.name name :: .name "as" :: .name bound :: rest)) = _
    simp only [aliased, read, Option.bind_eq_bind, Option.bind_some, Grammar.behind, asRead, boundRead, Option.map_some]
    rfl

/-- What is imported is told by the dots in front of a module, by the module and by the names. -/
theorem importFrom_of_read {tokens behindDots behindSource rest : List Token} {leading : List Nat} {line : Nat}
    {source : String} {names : List ImportedName} (dotted : repeatedly dots tokens = (leading, behindDots))
    (sourceRead : moduleName behindDots = some (source, ⟨.name "import", line⟩ :: behindSource))
    (imported : importedNames behindSource = some (some names, rest)) :
    importFrom tokens = some (.importsFrom (leading.foldl (· + ·) 0) (some source) (some names), rest) := by
  have importRead : word "import" (⟨.name "import", line⟩ :: behindSource) = some behindSource := rfl
  simp [importFrom, dotted, perhaps, sourceRead, importRead, imported]

theorem takes (plain : item.Plain) : Takes 0 (lineKinds item.parts) item.Means := by
  intro within lines rest room
  obtain ⟨token, within, rfl⟩ := List.exists_cons_of_length_pos room
  obtain ⟨source, entries⟩ := item
  obtain ⟨first, others, rfl⟩ := List.exists_cons_of_ne_nil plain.isSome
  let entriesKinds : List TokenKind := (entryParts first).flatMap Part.kinds
    ++ (others.flatMap (fun entry => .mark "," :: (entryParts entry).flatMap Part.kinds) ++ .lineEnd :: rest)
  have kinds : lineKinds (parts ⟨source, first :: others⟩) ++ rest = .name "from"
      :: ((dottedParts source).flatMap Part.kinds ++ .name "import" :: entriesKinds) := by
    simp [entriesKinds, lineKinds, parts, Part.kinds, Sign.text, List.flatMap_assoc]
  have stops (lines : Nat → Nat) :
      (mark "." (numbered lines (.name "import" :: entriesKinds))).bind identifier = none := rfl
  obtain ⟨behindSource, sourceRead⟩ := moduleName_numbered plain.source stops fun place => lines (place + 1)
  obtain ⟨names, further, namesRead, meant⟩ : ∃ names further,
      commaSeparated (aliased identifier) (numbered (fun place => behindSource (place + 1)) entriesKinds)
        = some (names, numbered further (.lineEnd :: rest)) ∧
      List.Forall₂ (fun entry found => entry = entryOf found) (first :: others) names :=
    commaSeparated_numbered (fun behind => ∀ lines, word "as" (numbered lines behind) = none)
      (by simp [entryParts, Part.kinds])
      (fun entry member lines behind stops =>
        entry_numbered (plain.names entry member) (plain.aliases entry member) stops lines)
      (fun _ _ => rfl) (fun _ => rfl) (fun _ => rfl) _
  obtain ⟨part, more, begins⟩ : ∃ part more, (dottedParts source).flatMap Part.kinds = .name part :: more := by
    obtain ⟨piece, pieces, split⟩ := List.exists_cons_of_ne_nil (Text.splitAt_ne_nil '.' source.toList)
    rw [dottedParts, Text.pieces, split]
    exact ⟨_, _, rfl⟩
  have noDots : repeatedly dots (numbered (fun place => lines (place + 1))
      ((dottedParts source).flatMap Part.kinds ++ .name "import" :: entriesKinds))
        = ([], numbered (fun place => lines (place + 1))
            ((dottedParts source).flatMap Part.kinds ++ .name "import" :: entriesKinds)) := by
    rw [begins]
    rfl
  have imported : importedNames (numbered (fun place => behindSource (place + 1)) entriesKinds)
      = some (some names, numbered further (.lineEnd :: rest)) := by
    have whole := congrArg (Option.bind · fun found => some (some found.1, found.2)) namesRead
    exact whole
  have form : importFrom (numbered (fun place => lines (place + 1))
      ((dottedParts source).flatMap Part.kinds ++ .name "import" :: entriesKinds))
        = some (.importsFrom 0 (some source) (some names), numbered further (.lineEnd :: rest)) :=
    importFrom_of_read noDots sourceRead imported
  have named : first :: others = names.map entryOf := by
    rw [← List.forall₂_eq_eq_eq, List.forall₂_map_right_iff]
    exact meant
  rw [kinds]
  exact ⟨_, fun place => further (place + 1), simpleLine_of_form form, lines 0, names, rfl, named⟩

end Import

/-! Modules. -/

namespace Module

/-- What stands in front of the classes of a module. -/
def opening (title : String) (imports : List Import) : List Meaning :=
  (lineKinds [.documentation (title ++ notice)], (documenting (Docstring.asRead (title ++ notice))).Fits)
    :: (typing :: imports).map fun item => (lineKinds item.parts, item.Means)

/-- What stands in a module. -/
def meanings (written : Module) : List Meaning :=
  opening written.title written.imports
    ++ written.classes.map fun declaration => (declaration.tokenKinds, declaration.Means)

/-- No name in the module is a word that the language keeps for itself. -/
structure Plain (written : Module) : Prop where
  imports : ∀ item ∈ written.imports, item.Plain
  classes : ∀ declaration ∈ written.classes, declaration.Plain

theorem typing_plain : typing.Plain where
  isSome := by decide
  source := by decide
  names := by decide
  aliases := by simp [typing]

theorem takes_opening (title : String) {imports : List Import} (plain : ∀ item ∈ imports, item.Plain) :
    ∀ item ∈ opening title imports, ∃ depth < item.1.length, Takes depth item.1 item.2 := by
  refine List.forall_mem_cons.mpr ⟨⟨0, Nat.two_pos, takes_documenting _⟩,
    List.forall_mem_map.mpr fun item member => ?_⟩
  have itemPlain : item.Plain := by
    rcases List.mem_cons.mp member with rfl | imported
    · exact typing_plain
    · exact plain item imported
  exact ⟨0, by simp [lineKinds], Import.takes itemPlain⟩

variable {written : Module}

theorem takes_meanings (plain : written.Plain) :
    ∀ item ∈ written.meanings, ∃ depth < item.1.length, Takes depth item.1 item.2 := by
  refine List.forall_mem_append.mpr ⟨takes_opening _ plain.imports,
    List.forall_mem_map.mpr fun declaration member => ?_⟩
  have long : 2 < declaration.tokenKinds.length := by
    simp [ClassDeclaration.tokenKinds, ClassDeclaration.headLine, lineKinds, Part.kinds]
    omega
  exact ⟨2, long, ClassDeclaration.takes (plain.classes declaration member)⟩

end Module

end SelectionGen.Target
