import SelectionGen.Proofs.FiniteTrees
import SelectionGen.Selection.Tree

/-! Selections read back. A tree of named fields is written as a text that spells it by the grammar of selection
sets: names, and braces around at least one selection. What the grammar allows is read in one way only, so reading
the text gives the tree back, with the name of the type where nothing is selected; and two trees have the same text
only if they differ in nothing else. -/
namespace SelectionGen

open Sdl

namespace Selection

/-- Every field of the tree has a name of the query language. -/
def Named : Selection → Prop
  | .nil => True
  | .leaf field rest => isName field.toList = true ∧ rest.Named
  | .nest field below rest => isName field.toList = true ∧ below.Named ∧ rest.Named

instance decidableNamed : (selection : Selection) → Decidable selection.Named
  | .nil => isTrue trivial
  | .leaf field rest =>
    have := decidableNamed rest
    inferInstanceAs (Decidable (isName field.toList = true ∧ rest.Named))
  | .nest field below rest =>
    have := decidableNamed below
    have := decidableNamed rest
    inferInstanceAs (Decidable (isName field.toList = true ∧ below.Named ∧ rest.Named))

/-- Where nothing is selected, the name of the type is. -/
def orTypeName : Selection → Selection
  | .nil => .leaf typeNameField .nil
  | selected => selected

/-- The selections of a tree, each with a selection below it that is not empty. -/
def completedEntries : Selection → Selection
  | .nil => .nil
  | .leaf field rest => .leaf field rest.completedEntries
  | .nest field below rest => .nest field below.completedEntries.orTypeName rest.completedEntries

/-- The tree with the name of the type in place of each empty selection. -/
def completed (selection : Selection) : Selection := selection.completedEntries.orTypeName

/-- The grammar of selections with the brace that closes them: a name alone, or a name and at least one selection in
braces. -/
inductive Spells : Selection → List Lexeme → Prop
  | close : Spells .nil [.mark .braceClose]
  | leaf (field : Name) {others : Selection} {lexemes : List Lexeme} (rest : Spells others lexemes) :
      Spells (.leaf field.text others) (.name field :: lexemes)
  | nest (field : Name) {below others : Selection} {inside lexemes : List Lexeme} (isSome : below ≠ .nil)
      (within : Spells below inside) (rest : Spells others lexemes) :
      Spells (.nest field.text below others) (.name field :: .mark .braceOpen :: (inside ++ lexemes))

theorem orTypeName_ne_nil (selection : Selection) : selection.orTypeName ≠ .nil := by
  cases selection <;> exact Selection.noConfusion

section Grammar

variable {selection : Selection} {lexemes behind : List Lexeme} {steps : Nat}

/-- What spells selections is read as these, whatever stands behind it. -/
theorem Spells.read (spells : Spells selection lexemes) (behind : List Lexeme) (enough : lexemes.length ≤ steps) :
    readEntries steps (lexemes ++ behind) = some (selection, behind) := by
  induction spells generalizing steps behind with
  | close =>
    obtain ⟨steps, rfl⟩ : ∃ fewer, steps = fewer + 1 := ⟨steps - 1, by simp at enough; omega⟩
    rfl
  | @leaf field others lexemes rest ih =>
    obtain ⟨steps, rfl⟩ : ∃ fewer, steps = fewer + 1 := ⟨steps - 1, by simp at enough; omega⟩
    have read := ih behind (Nat.le_of_succ_le_succ enough)
    rw [List.cons_append, readEntries, read]
    · rfl
    · -- No selections begin with a brace that opens.
      intro inside opens
      cases rest <;> cases opens
  | @nest field below others inside lexemes isSome within rest ihWithin ih =>
    obtain ⟨steps, rfl⟩ : ∃ fewer, steps = fewer + 1 := ⟨steps - 1, by simp at enough; omega⟩
    simp only [List.length_cons, List.length_append] at enough
    have enoughBelow : inside.length ≤ steps := by omega
    have enoughBehind : lexemes.length ≤ steps := by omega
    have readBelow := ihWithin (lexemes ++ behind) enoughBelow
    have readRest := ih behind enoughBehind
    simp only [List.cons_append, List.append_assoc, readEntries, readBelow, Option.bind_eq_bind, Option.bind_some,
      guard, isSome, ne_eq, not_false_eq_true, if_true, readRest]
    rfl

/-- Only what spells selections is read as these. -/
theorem spells_of_read (read : readEntries steps lexemes = some (selection, behind)) :
    ∃ front, lexemes = front ++ behind ∧ Spells selection front := by
  fun_induction readEntries steps lexemes generalizing selection behind with
  | case1 steps after =>
    cases read
    exact ⟨[.mark .braceClose], rfl, .close⟩
  | case2 steps field inside ihWithin ih =>
    simp only [Option.bind_eq_bind, Option.bind_eq_some_iff, Option.guard_eq_some'] at read
    obtain ⟨⟨below, middle⟩, readBelow, _, isSome, ⟨rest, after⟩, readRest, same⟩ := read
    cases same
    obtain ⟨within, rfl, spellsBelow⟩ := ihWithin readBelow
    obtain ⟨front, rfl, spellsRest⟩ := ih _ readRest
    refine ⟨.name field :: .mark .braceOpen :: (within ++ front), ?_, .nest field isSome spellsBelow spellsRest⟩
    simp only [List.cons_append, List.append_assoc]
  | case3 steps field after opens ih =>
    simp only [Option.bind_eq_bind, Option.bind_eq_some_iff] at read
    obtain ⟨⟨rest, after'⟩, readRest, same⟩ := read
    cases same
    obtain ⟨front, rfl, spells⟩ := ih readRest
    exact ⟨.name field :: front, rfl, .leaf field spells⟩
  | case4 => exact absurd read (by simp)

/-- Lexemes are a selection set exactly if they spell its selections in braces, of which there is at least one. -/
theorem ofLexemes_iff : ofLexemes? lexemes = some selection ↔
    selection ≠ .nil ∧ ∃ inside, lexemes = .mark .braceOpen :: inside ∧ Spells selection inside := by
  constructor
  · intro read
    unfold ofLexemes? at read
    split at read
    · rename_i inside
      simp only [Option.bind_eq_bind, Option.bind_eq_some_iff, Option.guard_eq_some'] at read
      obtain ⟨⟨found, behind⟩, readInside, _, ⟨isSome, ended⟩, same⟩ := read
      cases same
      obtain ⟨front, rfl, spells⟩ := spells_of_read readInside
      simp only at ended
      exact ⟨isSome, front, by rw [ended, List.append_nil], spells⟩
    · cases read
  · rintro ⟨isSome, inside, rfl, spells⟩
    have read := spells.read [] (Nat.le_refl inside.length)
    rw [List.append_nil] at read
    simp only [ofLexemes?, read, Option.bind_eq_bind, Option.bind_some, guard, isSome, ne_eq, not_false_eq_true,
      and_self, if_true]
    rfl

end Grammar

section Lexing

variable {text : List Char} {lexemes : List Lexeme}

/-- Wherever it stands, a text is cut into these lexemes, and all of it is spelled correctly. -/
def Cuts (text : List Char) (lexemes : List Lexeme) : Prop :=
  ∀ offset, ∃ tokens ending, TokenStream.scan text offset = ⟨tokens, .ok ending⟩ ∧ tokens.map Token.lexeme = lexemes

theorem lexemes_of_cuts {text : String} (cuts : Cuts text.toList lexemes) : lexemes? text = some lexemes := by
  obtain ⟨tokens, ending, scanned, same⟩ := cuts 0
  rw [lexemes?, TokenStream.ofString, scanned]
  exact congrArg some same

namespace Cuts

theorem nil : Cuts [] [] := fun offset => ⟨[], _, by rw [TokenStream.scan], rfl⟩

theorem blank (cuts : Cuts text lexemes) : Cuts (' ' :: text) lexemes := by
  intro offset
  obtain ⟨tokens, ending, scanned, same⟩ := cuts (offset + 1)
  exact ⟨tokens, ending, by rw [TokenStream.scan, if_pos (by decide), scanned], same⟩

/-- A lexeme in front, by what is read where it starts. -/
theorem cons {c : Char} {rest : List Char} {lexeme : Lexeme} {width : Nat} (visible : isIgnored c = false)
    (notComment : c ≠ '#') (read : Lexeme.read c rest = .ok (lexeme, width)) (cuts : Cuts (rest.drop width) lexemes) :
    Cuts (c :: rest) (lexeme :: lexemes) := by
  intro offset
  obtain ⟨tokens, ending, scanned, same⟩ := cuts (offset + 1 + width)
  refine ⟨⟨offset, lexeme⟩ :: tokens, ending, ?_, by rw [List.map_cons, same]⟩
  rw [TokenStream.scan, if_neg (by rw [visible]; decide), if_neg notComment, read]
  simp only [scanned]

theorem braceOpen (cuts : Cuts text lexemes) : Cuts ('{' :: text) (.mark .braceOpen :: lexemes) :=
  cons (by decide) (by decide) rfl cuts

theorem braceClose (cuts : Cuts text lexemes) : Cuts ('}' :: text) (.mark .braceClose :: lexemes) :=
  cons (by decide) (by decide) rfl cuts

/-- A name with a blank behind it. -/
theorem name (name : Name) (ends : text.head? = some ' ') (cuts : Cuts text lexemes) :
    Cuts (name.text.toList ++ text) (.name name :: lexemes) := by
  have spelled := name.spelled
  cases letters : name.text.toList with
  | nil => exact absurd (letters ▸ spelled) (by decide)
  | cons c rest =>
    obtain ⟨start, continues⟩ : isNameStart c = true ∧ rest.all isNameContinue = true := by
      rwa [letters, isName, Bool.and_eq_true] at spelled
    have visible : isIgnored c = false := by
      simp only [isIgnored, Bool.or_eq_false_iff, beq_eq_false_iff_ne]
      refine ⟨⟨⟨⟨⟨?_, ?_⟩, ?_⟩, ?_⟩, ?_⟩, ?_⟩ <;> rintro rfl <;> exact absurd start (by decide)
    have notComment : c ≠ '#' := by
      rintro rfl
      exact absurd start (by decide)
    have taken : (rest ++ text).takeWhile isNameContinue = rest := by
      rw [List.takeWhile_append_of_pos (List.all_eq_true.mp continues)]
      cases text with
      | nil => exact List.append_nil rest
      | cons blank more =>
        obtain rfl := Option.some.inj ends
        rw [List.takeWhile_cons_of_neg (by decide), List.append_nil]
    have same : Name.ofChars c (rest ++ text) start = name := by
      refine Name.ext (String.ext ?_)
      rw [Name.ofChars, String.toList_ofList, taken, letters]
    have read : Lexeme.read c (rest ++ text) = .ok (.name name, rest.length) := by
      rw [Lexeme.read, dif_pos start, same, taken]
    have behind : (rest ++ text).drop rest.length = text := List.drop_left
    exact cons visible notComment read (behind.symm ▸ cuts)

end Cuts

end Lexing

section Writing

variable {selection : Selection}

/-- Entries as they stand in braces, a blank in front of each. -/
def spaced (entries : List String) : List Char := entries.flatMap fun entry => ' ' :: entry.toList

theorem inBraces_toList (entry : String) (entries : List String) :
    (inBraces (entry :: entries)).toList = '{' :: (spaced (entry :: entries) ++ [' ', '}']) := by
  simp only [inBraces, String.toList_append, Text.toList_intercalate_cons]
  simp [spaced]

theorem inBraces_nil_toList : (inBraces []).toList = '{' :: (spaced [typeNameField] ++ [' ', '}']) := by
  decide

/-- Asking for the name of the type changes nothing in what is written. -/
theorem inBraces_orTypeName (selection : Selection) :
    inBraces selection.orTypeName.entries = inBraces selection.entries := by
  cases selection with
  | nil => decide
  | leaf _ _ => rfl
  | nest _ _ _ => rfl

theorem completedEntries_entries (selection : Selection) : selection.completedEntries.entries = selection.entries := by
  induction selection with
  | nil => rfl
  | leaf field rest ih => rw [completedEntries, entries, ih, entries]
  | nest field below rest ihBelow ih => rw [completedEntries, entries, inBraces_orTypeName, ihBelow, ih, entries]

theorem serialize_completed (selection : Selection) : selection.completed.serialize = selection.serialize := by
  rw [serialize, completed, inBraces_orTypeName, completedEntries_entries, serialize]

theorem entries_eq_nil_iff : selection.entries = [] ↔ selection.completedEntries = .nil := by
  cases selection <;> simp [entries, completedEntries]

/-- Entries that are written, with a brace behind them, are cut into lexemes that spell a selection. -/
def CutsInto (entries : List String) (selection : Selection) : Prop :=
  ∃ lexemes, Spells selection lexemes ∧ ∀ {text behind}, Cuts text behind →
    Cuts (spaced entries ++ ' ' :: '}' :: text) (lexemes ++ behind)

theorem CutsInto.nil : CutsInto [] .nil := by
  refine ⟨[.mark .braceClose], .close, fun after => ?_⟩
  exact Cuts.blank (Cuts.braceClose after)

theorem CutsInto.leaf {entries : List String} (field : Name) (cutsRest : CutsInto entries selection) :
    CutsInto (field.text :: entries) (.leaf field.text selection) := by
  obtain ⟨lexemes, spells, cuts⟩ := cutsRest
  refine ⟨.name field :: lexemes, .leaf field spells, fun {text behind} after => ?_⟩
  have ends : (spaced entries ++ ' ' :: '}' :: text).head? = some ' ' := by cases entries <;> rfl
  have whole := Cuts.blank (Cuts.name field ends (cuts after))
  rwa [← List.append_assoc, ← List.cons_append, ← List.cons_append] at whole

/-- What stands in braces is the entries, or the name of the type if there is none. -/
theorem CutsInto.inBraces {entries : List String} (empty : entries = [] ↔ selection = .nil)
    (cutsEntries : CutsInto entries selection) :
    ∃ lexemes, Spells selection.orTypeName lexemes ∧ ∀ {text behind}, Cuts text behind →
      Cuts ((Selection.inBraces entries).toList ++ text) (.mark .braceOpen :: (lexemes ++ behind)) := by
  cases entries with
  | nil =>
    obtain rfl := empty.mp rfl
    obtain ⟨lexemes, spells, cuts⟩ := CutsInto.nil.leaf ⟨typeNameField, by decide⟩
    refine ⟨lexemes, spells, fun {text behind} after => ?_⟩
    have whole := Cuts.braceOpen (cuts after)
    rw [inBraces_nil_toList]
    simpa only [List.cons_append, List.append_assoc, List.nil_append] using whole
  | cons entry rest =>
    obtain ⟨lexemes, spells, cuts⟩ := cutsEntries
    have isSome : selection ≠ .nil := fun none => List.cons_ne_nil _ _ (empty.mpr none)
    have same : selection.orTypeName = selection := by
      cases selection with
      | nil => exact absurd rfl isSome
      | leaf _ _ => rfl
      | nest _ _ _ => rfl
    refine ⟨lexemes, same.symm ▸ spells, fun {text behind} after => ?_⟩
    have whole := Cuts.braceOpen (cuts after)
    rw [inBraces_toList]
    simpa only [List.cons_append, List.append_assoc, List.nil_append] using whole

theorem CutsInto.nest {entries inside : List String} {below : Selection} (field : Name)
    (empty : inside = [] ↔ below = .nil) (cutsInside : CutsInto inside below) (cutsRest : CutsInto entries selection) :
    CutsInto ((field.text ++ " " ++ Selection.inBraces inside) :: entries)
      (.nest field.text below.orTypeName selection) := by
  obtain ⟨within, spellsBelow, cutsBelow⟩ := cutsInside.inBraces empty
  obtain ⟨lexemes, spells, cuts⟩ := cutsRest
  refine ⟨.name field :: .mark .braceOpen :: (within ++ lexemes),
    .nest field below.orTypeName_ne_nil spellsBelow spells, fun {text behind} after => ?_⟩
  have ends : (' ' :: ((Selection.inBraces inside).toList ++ (spaced entries ++ ' ' :: '}' :: text))).head?
      = some ' ' := rfl
  have whole := Cuts.blank (Cuts.name field ends (Cuts.blank (cutsBelow (cuts after))))
  simpa [spaced] using whole

/-- The entries of a tree of named fields spell its completed selections. -/
theorem Named.cutsInto (named : selection.Named) : CutsInto selection.entries selection.completedEntries := by
  induction selection with
  | nil => exact .nil
  | leaf field rest ih =>
    obtain ⟨isField, named⟩ := named
    exact (ih named).leaf ⟨field, isField⟩
  | nest field below rest ihBelow ih =>
    obtain ⟨isField, namedBelow, named⟩ := named
    exact .nest ⟨field, isField⟩ entries_eq_nil_iff (ihBelow namedBelow) (ih named)

/-- The lexemes of a written tree, wherever it stands. -/
theorem Named.cuts (named : selection.Named) :
    ∃ lexemes, Spells selection.completed lexemes ∧ ∀ {text behind}, Cuts text behind →
      Cuts (selection.serialize.toList ++ text) (.mark .braceOpen :: (lexemes ++ behind)) :=
  named.cutsInto.inBraces entries_eq_nil_iff

/-- A tree of named fields that is written and read back is there again, with the name of the type where nothing is
selected. -/
theorem Named.read (named : selection.Named) : ofText? selection.serialize = some selection.completed := by
  obtain ⟨lexemes, spells, cuts⟩ := named.cuts
  have whole := cuts .nil
  rw [List.append_nil, List.append_nil] at whole
  rw [ofText?, lexemes_of_cuts whole]
  exact ofLexemes_iff.mpr ⟨orTypeName_ne_nil _, lexemes, rfl, spells⟩

/-- A whole operation reads back with its keyword and the name it has, which an empty name is not. -/
theorem Named.read_operation (named : selection.Named) (operation : Operation) (name : Option String)
    (isGiven : ∀ given ∈ name, given ≠ "" → isName given.toList = true) :
    operationOfText? (queryText operation.keyword name selection.serialize)
      = some (operation, name.filter (· ≠ ""), selection.completed) := by
  obtain ⟨lexemes, spells, cuts⟩ := named.cuts
  have after := cuts .nil
  rw [List.append_nil, List.append_nil] at after
  have read : ofLexemes? (.mark .braceOpen :: lexemes) = some selection.completed :=
    ofLexemes_iff.mpr ⟨orTypeName_ne_nil _, lexemes, rfl, spells⟩
  have isKeyword : isName operation.keyword.toList = true := by cases operation <;> decide
  have known : Operation.ofKeyword? operation.keyword = some operation := by cases operation <;> rfl
  have withoutName : operationOfText? (operation.keyword ++ " " ++ selection.serialize)
      = some (operation, none, selection.completed) := by
    have whole := Cuts.name ⟨operation.keyword, isKeyword⟩ rfl (Cuts.blank after)
    rw [operationOfText?, lexemes_of_cuts (by simpa using whole)]
    simp [operationOfLexemes?, known, read]
  cases name with
  | none => exact withoutName
  | some given =>
    by_cases empty : given = ""
    · rw [queryText, if_pos empty, empty]
      exact withoutName
    · have isName := isGiven given rfl empty
      have named := Cuts.name ⟨given, isName⟩ rfl (Cuts.blank after)
      have whole := Cuts.name ⟨operation.keyword, isKeyword⟩ rfl (Cuts.blank named)
      rw [queryText, if_neg empty, operationOfText?, lexemes_of_cuts (by simpa using whole)]
      simp [operationOfLexemes?, known, read, Option.filter, empty]

end Writing

end Selection

/-- **Written selections read back.** An object whose fields form a tree of named fields, however deep and wide, is
written out as a text that is a selection set from its first character to its last and reads back as that tree, with
the name of the type in place of each empty selection. The text of another such object is the same exactly if its
tree differs in nothing else. An operation that is built from the text reads back as one operation of its keyword,
with its name unless that is empty, and with that selection set. Code that can write out the objects below gets this
very text. -/
theorem Store.written_reads_back {store : Store} {id : ObjectId} {object : ProjectionObject} {tree : Selection}
    (found : store.object? id = some object) (recorded : store.Records object.fields tree) (named : tree.Named) :
    ∃ text, store.serialize? id = some text ∧
      (∀ program : Program, (∀ reached content, store.Leads id reached → store.object? reached = some content →
        program.Writes content) → program.serialized store id = .ok text) ∧
      Selection.ofText? text = some tree.completed ∧
      (∀ (other : Store) (otherId : ObjectId) (otherObject : ProjectionObject) (otherTree : Selection),
        other.object? otherId = some otherObject → other.Records otherObject.fields otherTree → otherTree.Named →
          (other.serialize? otherId = some text ↔ otherTree.completed = tree.completed)) ∧
      ∀ (operation : Operation) (name : Option String), (∀ given ∈ name, given ≠ "" → isName given.toList = true) →
        Selection.operationOfText? (queryText operation.keyword name text)
          = some (operation, name.filter (· ≠ ""), tree.completed) := by
  refine ⟨tree.serialize, recorded.serialize found, fun _ => recorded.serialized found, named.read, ?_,
    named.read_operation⟩
  intro other otherId otherObject otherTree otherFound otherRecorded otherNamed
  rw [otherRecorded.serialize otherFound, Option.some.injEq]
  constructor
  · intro same
    have read := otherNamed.read
    rw [same, named.read] at read
    exact (Option.some.inj read).symm
  · intro same
    rw [← otherTree.serialize_completed, same, tree.serialize_completed]

/-- What is selected in a library: the books of two places are one object, on which nothing is recorded, and another
entry point asks for the name of the type in so many words. -/
def Store.librarySelections : Store where
  objects :=
    [{ classKey := { name := "QueryProjection" }, fields := [("library", some 1), ("spare", some 2)] },
     { classKey := { name := "LibraryProjection" }, fields := [("name", none), ("books", some 2)] },
     { classKey := { name := "BookProjection" } },
     { classKey := { name := "QueryProjection" }, fields := [("library", some 1), ("spare", some 4)] },
     { classKey := { name := "BookProjection" }, fields := [("__typename", none)] }]

/-- The selections of the library read back, alone and as an operation, and both entry points are written alike. -/
theorem Store.librarySelections_read_back :
    ∃ text, librarySelections.serialize? 0 = some text ∧ librarySelections.serialize? 3 = some text ∧
      (∀ files, (⟨[], files⟩ : Program).serialized librarySelections 0 = .ok text) ∧
      Selection.ofText? text
        = some (.nest "library" (.leaf "name" (.nest "books" (.leaf "__typename" .nil) .nil))
            (.nest "spare" (.leaf "__typename" .nil) .nil)) ∧
      Selection.operationOfText? (queryText "query" (some "Books") text)
        = some (.query, some "Books", .nest "library" (.leaf "name" (.nest "books" (.leaf "__typename" .nil) .nil))
            (.nest "spare" (.leaf "__typename" .nil) .nil)) := by
  have recorded : librarySelections.Records [("library", some 1), ("spare", some 2)]
      (.nest "library" (.leaf "name" (.nest "books" .nil .nil)) (.nest "spare" .nil .nil)) :=
    .nest rfl (.leaf (.nest rfl .nil .nil)) (.nest rfl .nil .nil)
  have inWords : librarySelections.Records [("library", some 1), ("spare", some 4)]
      (.nest "library" (.leaf "name" (.nest "books" .nil .nil)) (.nest "spare" (.leaf "__typename" .nil) .nil)) :=
    .nest rfl (.leaf (.nest rfl .nil .nil)) (.nest rfl (.leaf .nil) .nil)
  have found : librarySelections.object? 0
      = some { classKey := { name := "QueryProjection" }, fields := [("library", some 1), ("spare", some 2)] } := rfl
  have foundOther : librarySelections.object? 3
      = some { classKey := { name := "QueryProjection" }, fields := [("library", some 1), ("spare", some 4)] } := rfl
  obtain ⟨text, written, byCode, read, same, operation⟩ := written_reads_back found recorded (by decide +kernel)
  refine ⟨text, written, (same _ _ _ _ foundOther inWords (by decide +kernel)).mpr rfl, fun files => ?_, read,
    operation .query (some "Books") ?_⟩
  · refine byCode ⟨[], files⟩ fun reached content _ held => ⟨rfl, ?_⟩
    have kept : ∀ object ∈ librarySelections.objects, object.isBare = false := by decide
    exact kept content (List.mem_of_getElem? held)
  · rintro given ⟨rfl⟩ _
    decide +kernel

end SelectionGen
