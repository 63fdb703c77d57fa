import Mathlib.Data.List.TakeWhile
import SelectionGen.Proofs.AlikeTrees
import SelectionGen.Proofs.NullCharacters

/-! Headers of the command line. The text of a header is made a comment in front of its first line, and further lines
stay as they are. So what is put in front of a file is a comment exactly if these lines are; and where they are comments
or blank, a run with the header comes to the same as one without it, but for what stands in front of the files. -/
namespace SelectionGen

open Files

namespace Target

/-- What headers put in front of a file. -/
def preface (headers : List String) : String := withHeaders headers ""

theorem withHeaders_append (headers : List String) (front text : String) :
    withHeaders headers (front ++ text) = withHeaders headers front ++ text := by
  induction headers generalizing front with
  | nil => rfl
  | cons header headers ih =>
    have here : withHeader (front ++ text) header = withHeader front header ++ text := by
      simp only [withHeader, String.append_assoc]
    rw [withHeaders, List.foldl_cons, here]
    exact ih _

/-- Behind what headers put in front of it, a file is unchanged. -/
theorem withHeaders_eq (headers : List String) (text : String) :
    withHeaders headers text = preface headers ++ text := by
  rw [preface, ← withHeaders_append, String.empty_append]

/-- A line that is blank or begins with the mark of comments. -/
def isRemark (line : List Char) : Bool := line.all Indentation.isBlank || line.head? == some '#'

theorem isIdle_of_isRemark {line : List Char} (remark : isRemark line = true) : isIdle line = true := by
  rcases Bool.or_eq_true_iff.mp remark with blank | marked
  · have nothing : line.dropWhile Indentation.isBlank = [] := List.dropWhile_eq_nil_iff.mpr (List.all_eq_true.mp blank)
    rw [isIdle, nothing]
  · obtain ⟨rest, rfl⟩ := List.head?_eq_some_iff.mp (beq_iff_eq.mp marked)
    rfl

/-- What holds of blank lines holds of the lines of a header if it holds of those that are put in front of a file. -/
theorem forall_lines_preface (holds : List Char → Prop) (blank : holds []) (header : String) :
    (∀ line ∈ Text.lines (preface [header]).toList, holds line) ↔ ∀ line ∈ Text.lines header.toList, holds line := by
  obtain ⟨before, blanks, ofHeader, areBlank, headed⟩ := exists_linesOf header
  have ofPreface : Text.lines (preface [header]).toList = Text.splitAt '\n' before ++ [[], []] := by
    rw [preface, withHeaders, List.foldl_cons, List.foldl_nil, Text.lines, headed, Text.splitAt_append]
    rfl
  have blanksHold : ∀ line ∈ blanks, holds line := fun line member => by rwa [areBlank line member]
  rw [ofPreface, ofHeader, List.forall_mem_append, List.forall_mem_append]
  exact and_congr_right fun _ => iff_of_true (by simp [blank]) blanksHold

end Target

/-! A text that is made a comment in front of its first line. -/

namespace CommandLine.Run

open Target

/-- The comment that a text is made. -/
def comment (text : String) : String := if Text.beginsWith "#" text then text else "# " ++ text

theorem headers_of_some {request : Request} {text : String} (given : request.header? = some text) (isSome : text ≠ "") :
    headers request = [comment text] := by
  have kept : (some text).filter (fun text => decide (text ≠ "")) = some text :=
    Option.filter_some_pos (decide_eq_true isSome)
  rw [headers, given, kept]
  rfl

/-- Its first line begins with the mark of comments, and the others are those of the text. -/
theorem lines_comment (text : String) :
    ∃ rest, Text.lines (comment text).toList = ('#' :: rest) :: (Text.lines text.toList).tail := by
  have isSome (text : List Char) : ∃ first others, Text.lines text = first :: others :=
    List.exists_cons_of_ne_nil (Text.splitAt_ne_nil '\n' _)
  unfold comment
  split
  · rename_i begins
    obtain ⟨rest, whole⟩ : ∃ rest, text.toList = '#' :: rest := by
      obtain ⟨rest, whole⟩ := List.isPrefixOf_iff_prefix.mp begins
      exact ⟨rest, whole.symm⟩
    obtain ⟨first, others, split⟩ := isSome rest
    rw [whole, Text.lines_cons (by decide) (by decide) split]
    exact ⟨first, rfl⟩
  · obtain ⟨first, others, split⟩ := isSome text.toList
    have whole : ("# " ++ text).toList = '#' :: ' ' :: text.toList := by simp
    rw [whole, split]
    exact ⟨_, Text.lines_cons (by decide) (by decide) (Text.lines_cons (by decide) (by decide) split)⟩

theorem null_mem_comment_iff {text : String} : '\x00' ∈ (comment text).toList ↔ '\x00' ∈ text.toList := by
  unfold comment
  split <;> simp

/-- What is put in front of files is a comment exactly if the further lines of the text are. -/
theorem preface_isRemark_iff (text : String) :
    (∀ line ∈ Text.lines (preface [comment text]).toList, isRemark line = true) ↔
      ∀ line ∈ (Text.lines text.toList).tail, isRemark line = true := by
  obtain ⟨rest, lines⟩ := lines_comment text
  have blank : isRemark [] = true := rfl
  rw [forall_lines_preface (fun line => isRemark line = true) blank, lines, List.forall_mem_cons]
  exact and_iff_right (by simp [isRemark])

theorem isHeader_comment {text : String} (noNull : '\x00' ∉ text.toList)
    (idle : ∀ line ∈ (Text.lines text.toList).tail, isIdle line = true) : IsHeader (comment text) := by
  obtain ⟨rest, lines⟩ := lines_comment text
  refine ⟨mt null_mem_comment_iff.mp noNull, ?_⟩
  rw [lines, List.forall_mem_cons]
  exact ⟨by simp [isIdle, Indentation.isBlank], idle⟩

end CommandLine.Run

/-! What headers of comments and blank lines leave as it is. -/

namespace Target

/-- Two texts say the same: both are read as these statements, or neither is, with the same fault. -/
def SayAlike (items : List Grammar.Meaning) (text other : String) : Prop :=
  (∃ code twin, readCode text = .ok code ∧ readCode other = .ok twin ∧ Grammar.Meant items code ∧
      Grammar.Meant items twin) ∨
    ∃ fault, readCode text = .error fault ∧ readCode other = .error fault

/-- A file with a text in front of it. -/
def behind (front : String) (file : String × String) : String × String := (file.1, front ++ file.2)

theorem mapM_map {α β γ ε : Type} {f : α → Except ε γ} {g : α → Except ε β} {change : β → γ} {items : List α}
    (each : ∀ item ∈ items, f item = (g item).map change) : items.mapM f = (items.mapM g).map (List.map change) := by
  induction items with
  | nil => rfl
  | cons item items ih =>
    rw [List.mapM_cons, List.mapM_cons, each item List.mem_cons_self,
      ih fun other member => each other (List.mem_cons_of_mem _ member)]
    cases g item with
    | error error => rfl
    | ok value => cases items.mapM g <;> rfl

end Target

namespace Api.Coherent

open Target

variable {settings : Settings} {api : Api} {headers : List String} {file : String × String}

theorem files_sayAlike {items : List Grammar.Meaning} (coherent : api.Coherent settings)
    (named : ∀ projection ∈ api.projections, projection.NamesAccessors)
    (areHeaders : ∀ header ∈ headers, IsHeader header) (isFile : IsFile (moduleSources api settings) file items) :
    SayAlike items (withHeaders headers file.2) file.2 := by
  have noHeaders : ∀ header ∈ ([] : List String), IsHeader header := by simp
  by_cases inText : '\x00' ∈ file.2.toList
  · exact .inr ⟨.nullCharacter, readCode_eq_nullCharacter_iff.mpr (null_mem_withHeaders_iff.mpr (.inr inText)),
      readCode_eq_nullCharacter_iff.mpr inText⟩
  · rcases coherent.readCode_of_null_not_mem named isFile inText with reads | ⟨_, malformed⟩
    · obtain ⟨code, read, meant⟩ := reads headers areHeaders
      obtain ⟨twin, plain, meantToo⟩ := reads [] noHeaders
      exact .inl ⟨code, twin, read, plain, meant, meantToo⟩
    · exact .inr ⟨_, malformed headers areHeaders, malformed [] noHeaders⟩

/-- Files are refused for the same with headers, and given out with the headers in front. -/
theorem render_behind (coherent : api.Coherent settings)
    (named : ∀ projection ∈ api.projections, projection.NamesAccessors)
    (areHeaders : ∀ header ∈ headers, IsHeader header) :
    render settings headers [] api = (render settings [] [] api).map (List.map (behind (preface headers))) := by
  cases unique : checkUnique [] (moduleSources api settings) with
  | error error => rw [render_of_refused unique, render_of_refused unique]; rfl
  | ok _ =>
    rw [render_of_unique unique, render_of_unique unique]
    refine mapM_map fun file member => ?_
    obtain ⟨items, isFile⟩ := mem_layOut.mp member
    have plain : withHeaders [] file.2 = file.2 := rfl
    rw [finish_eq, finish_eq, plain]
    rcases coherent.files_sayAlike named areHeaders isFile with
      ⟨code, twin, read, readPlain, _⟩ | ⟨fault, failed, failedPlain⟩
    · rw [read, readPlain, withHeaders_eq]
      rfl
    · rw [failed, failedPlain]
      rfl

end Api.Coherent

/-! Two runs next to each other. -/

namespace Target

open Files.Tree

variable {similar : ByteArray → ByteArray → Prop} {tree other : Tree}

/-- Files with the same paths are saved alike. -/
theorem saveAll_matches {files others : Target.Files} (twins : tree.Matches similar other)
    (alike : List.Forall₂ (fun file twin => file.1 = twin.1 ∧ similar file.2.toUTF8 twin.2.toUTF8) files others)
    (base directory : String) :
    (saveAll base directory files tree).outcome = (saveAll base directory others other).outcome ∧
      (saveAll base directory files tree).tree.Matches similar (saveAll base directory others other).tree := by
  induction alike generalizing tree other with
  | nil => exact ⟨rfl, twins⟩
  | @cons file twin _ _ same _ ih =>
    obtain ⟨path, text⟩ := file
    obtain ⟨_, plain⟩ := twin
    obtain ⟨rfl, same⟩ := same
    have agree := twins.save (Files.join directory path) same
    rw [saveAll, saveAll]
    dsimp only at agree same ⊢
    generalize tree.save (Files.join directory path) text.toUTF8 = saved,
      other.save (Files.join directory path) plain.toUTF8 = twin at agree ⊢
    cases agree with
    | failed error => exact ⟨rfl, twins⟩
    | done twins =>
      obtain ⟨outcome, trees⟩ := ih twins
      exact ⟨congrArg (Except.map _) outcome, trees⟩

/-- What a file holds with a text in front of some files: the same, or the same behind that text. -/
def Headed (front : String) (content held : ByteArray) : Prop := content = held ∨ content = front.toUTF8 ++ held

/-- Files that are rendered alike are written alike. -/
theorem write_headed {settings : Settings} {headers : List String} {api : Api} {front : String}
    (rendered : render settings headers [] api = (render settings [] [] api).map (List.map (behind front)))
    (twins : tree.Matches (Headed front) other) (base directory : String) :
    (write settings headers [] api base directory tree).outcome
        = (write settings [] [] api base directory other).outcome ∧
      (write settings headers [] api base directory tree).tree.Matches (Headed front)
        (write settings [] [] api base directory other).tree := by
  unfold write
  rw [rendered]
  cases render settings [] [] api with
  | error error => exact ⟨rfl, twins⟩
  | ok files =>
    have alike : List.Forall₂ (fun file twin => file.1 = twin.1 ∧ Headed front file.2.toUTF8 twin.2.toUTF8)
        (files.map (behind front)) files :=
      List.forall₂_map_left_iff.mpr (List.forall₂_same.mpr fun file _ => ⟨rfl, .inr String.toByteArray_append⟩)
    obtain ⟨outcome, trees⟩ := saveAll_matches twins alike base directory
    exact ⟨congrArg (Except.mapError _) outcome, trees⟩

end Target

namespace CommandLine

open Target

variable {front : String}

/-- Two runs have come to the same, but for what stands in front of files. -/
structure Progress.Twins (front : String) (progress twin : Progress) : Prop where
  lines : progress.lines = twin.lines
  tree : progress.tree.Matches (Headed front) twin.tree
  made : progress.made = twin.made
  temporaries : progress.temporaries = twin.temporaries

theorem Progress.Twins.refl (front : String) (progress : Progress) : progress.Twins front progress :=
  ⟨rfl, .refl (fun _ => .inl rfl) _, rfl, rfl⟩

namespace Run

variable {α β : Type} {part other : Run α} {next others : α → Run β} {progress twin : Progress}

/-- From where two runs stand, two parts have the same result and come to the same. -/
def Agrees (front : String) (part other : Run α) (progress twin : Progress) : Prop :=
  ∃ result after beside, part.run progress = (result, after) ∧ other.run twin = (result, beside) ∧
    after.Twins front beside

namespace Agrees

theorem refl (part : Run α) (progress : Progress) : Agrees front part part progress progress :=
  ⟨_, _, _, rfl, rfl, .refl front _⟩

theorem bind (first : Agrees front part other progress twin)
    (behind : ∀ value between beside, part.run progress = (.ok value, between) → other.run twin = (.ok value, beside) →
      between.Twins front beside → Agrees front (next value) (others value) between beside) :
    Agrees front (part >>= next) (other >>= others) progress twin := by
  obtain ⟨result, between, beside, ran, ranToo, twins⟩ := first
  cases result with
  | error ending => exact ⟨.error ending, between, beside, by rw [run_bind, ran], by rw [run_bind, ranToo], twins⟩
  | ok value =>
    obtain ⟨result, after, afterToo, ranNext, ranOther, twins⟩ := behind value between beside ran ranToo twins
    refine ⟨result, after, afterToo, ?_, ?_, twins⟩ <;> rw [run_bind]
    · rwa [ran]
    · rwa [ranToo]

/-- A part that both have in common leaves off at the same where both stand at the same. -/
theorem behind (behind : ∀ value between, part.run progress = (.ok value, between) →
      Agrees front (next value) (others value) between between) :
    Agrees front (part >>= next) (part >>= others) progress progress :=
  (refl part progress).bind fun value between beside ran ranToo _ => by
    obtain rfl : between = beside := congrArg Prod.snd (ran.symm.trans ranToo)
    exact behind value between ran

theorem say (twins : progress.Twins front twin) (line : String) :
    Agrees front (Run.say line) (Run.say line) progress twin :=
  ⟨.ok (), _, _, rfl, rfl, { twins with lines := congrArg (· ++ [line]) twins.lines }⟩

theorem sayAll (twins : progress.Twins front twin) (lines : List String) :
    Agrees front (Run.sayAll lines) (Run.sayAll lines) progress twin := by
  induction lines generalizing progress twin with
  | nil => exact ⟨.ok PUnit.unit, _, _, rfl, rfl, twins⟩
  | cons line lines ih => exact (say twins line).bind fun _ _ _ _ _ twins => ih twins

theorem orFinish {ε : Type} (twins : progress.Twins front twin) (result : Except ε α) (ending : ε → Ending) :
    Agrees front (Run.orFinish result ending) (Run.orFinish result ending) progress twin := by
  cases result with
  | error error => exact ⟨.error (ending error), _, _, rfl, rfl, twins⟩
  | ok value => exact ⟨.ok value, _, _, rfl, rfl, twins⟩

/-- Each run looks at where it stands and goes on from somewhere else. -/
theorem moved {first second : Progress → Progress} {rest : Progress → Run α} {beside : Progress → Run α}
    (behind : Agrees front (rest progress) (beside twin) (first progress) (second twin)) :
    Agrees front (do let here ← get; set (first here); rest here) (do let here ← get; set (second here); beside here)
      progress twin := behind

theorem writeFiles {settings : Settings} {headers : List String} {api : Api}
    (rendered : render settings headers [] api = (render settings [] [] api).map (List.map (Target.behind front)))
    (twins : progress.Twins front twin) (output : Files.Place) :
    Agrees front (Run.writeFiles output settings headers api) (Run.writeFiles output settings [] api) progress
      twin := by
  obtain ⟨outcome, trees⟩ := write_headed rendered twins.tree (renderPlace output) (renderPlace output)
  refine .moved ?_
  rw [outcome]
  refine .orFinish ?_ _ _
  exact ⟨twins.lines, trees, twins.made, twins.temporaries⟩

end Agrees

/-- A run goes on behind a result that is there. -/
theorem eq_ok_of_orFinish {ε : Type} {result : Except ε α} {ending : ε → Ending} {value : α} {between : Progress}
    (ran : (Run.orFinish result ending).run progress = (.ok value, between)) : result = .ok value := by
  cases result with
  | error error => cases ran
  | ok found =>
    cases ran
    rfl

/-- With headers and without, the command comes to the same if files are rendered alike. -/
theorem generate_agrees {workspace : Workspace} {request : Request}
    (rendered : ∀ settings filters load api, (Generation.run settings filters load).outcome = .ok api →
      render settings (headers request) [] api = (render settings [] [] api).map (List.map (Target.behind front)))
    (progress : Progress) :
    Agrees front (generate workspace request) (generate workspace { request with header? := none }) progress
      progress := by
  have writes (output : Files.Place) {settings : Settings} {api : Api} {progress between here : Progress}
      (ran : (generateApi workspace settings).run progress = (.ok api, between)) :
      Agrees front (writeFiles output settings (headers request) api) (writeFiles output settings [] api) here
        here := by
    have done : (Generation.ofSettings settings [] progress.tree workspace.current).outcome = .ok api :=
      eq_ok_of_orFinish ran
    exact .writeFiles (rendered _ _ _ _ done) (.refl front here) output
  -- Up to where files are written both runs do the same, and from there on they only print.
  unfold generate
  refine .behind fun output _ _ => .behind fun settings _ _ => .behind fun given _ _ => ?_
  dsimp only
  split
  · exact .behind fun _ _ ran => nomatch ran
  · cases request.verbose with
    | true =>
      refine .behind fun _ _ _ => .behind fun _ _ _ => .behind fun _ _ _ => .behind fun _ _ _ =>
        .behind fun api _ ran => .behind fun _ _ _ => .behind fun _ _ _ => .behind fun _ _ _ =>
          (writes _ ran).bind fun _ _ _ _ _ twins => ?_
      exact Agrees.bind (.sayAll twins _) fun _ _ _ _ _ twins => .say twins _
    | false =>
      exact .behind fun _ _ _ => .behind fun api _ ran => .behind fun _ _ _ =>
        (writes _ ran).bind fun _ _ _ _ _ twins => .say twins _

end Run

/-- Directories are removed alike. -/
theorem removeEach_matches {similar : ByteArray → ByteArray → Prop} {tree other : Files.Tree}
    (twins : tree.Matches similar other) (places : List Files.Place) :
    (removeEach tree places).2 = (removeEach other places).2 ∧
      (removeEach tree places).1.Matches similar (removeEach other places).1 := by
  induction places generalizing tree other with
  | nil => exact ⟨rfl, twins⟩
  | cons place places ih =>
    have agree := twins.removeAll place
    rw [removeEach, removeEach]
    generalize tree.removeAll place = removed, other.removeAll place = twin at agree ⊢
    cases agree with
    | failed error => exact ⟨rfl, twins⟩
    | done twins => exact ih twins

/-- Two runs have printed the same and ended alike, and differ in what stands in front of files at most. -/
structure Report.Twins (front : String) (report twin : Report) : Prop where
  lines : report.lines = twin.lines
  ending : report.ending = twin.ending
  tree : report.tree.Matches (Headed front) twin.tree

theorem Request.run_agrees {workspace : Workspace} {request : Request}
    (rendered : ∀ settings filters load api, (Generation.run settings filters load).outcome = .ok api →
      render settings (Run.headers request) [] api = (render settings [] [] api).map (List.map (Target.behind front))) :
    (request.run workspace).Twins front ({ request with header? := none }.run workspace) := by
  obtain ⟨result, after, beside, ran, ranToo, twins⟩ := Run.generate_agrees rendered ⟨[], workspace.tree, 0, []⟩
  obtain ⟨resistance, trees⟩ := removeEach_matches twins.tree beside.temporaries
  unfold Request.run
  rw [ran, ranToo]
  dsimp only
  rw [twins.temporaries]
  generalize removeEach after.tree beside.temporaries = removed,
    removeEach beside.tree beside.temporaries = twin at resistance trees ⊢
  obtain ⟨tree, resistance?⟩ := removed
  obtain ⟨other, _⟩ := twin
  obtain rfl := resistance
  exact ⟨twins.lines, rfl, trees⟩

/-- **A header is a comment if its further lines are.** The text of a header is put in front of every file that is given
out, whatever the file, and what is put there is all comments and blank lines exactly if the lines of the text behind
the first one are. If nothing but comments is on these lines, and no null character, nothing comes of the header but
what stands in front of the files: each file of a run says the same with it and without, or fails alike, so the files
are refused for the same and otherwise given out with the comment in front; and wherever the command is run, it prints
the same, ends alike, and leaves the same files but for what stands in front of them. -/
theorem Request.run_of_header {request : Request} {text : String} (given : request.header? = some text)
    (isSome : text ≠ "") :
    (∀ file, withHeaders (Run.headers request) file = preface (Run.headers request) ++ file) ∧
    ((∀ line ∈ Text.lines (preface (Run.headers request)).toList, isRemark line = true) ↔
      ∀ line ∈ (Text.lines text.toList).tail, isRemark line = true) ∧
    ('\x00' ∉ text.toList → (∀ line ∈ (Text.lines text.toList).tail, isIdle line = true) →
      (∀ settings filters load api, (Generation.run settings filters load).outcome = .ok api →
        (∀ file items, IsFile (moduleSources api settings) file items →
          SayAlike items (preface (Run.headers request) ++ file.2) file.2) ∧
        render settings (Run.headers request) [] api
          = (render settings [] [] api).map (List.map (behind (preface (Run.headers request))))) ∧
      ∀ workspace, (request.run workspace).Twins (preface (Run.headers request))
        ({ request with header? := none }.run workspace)) := by
  have isComment := Run.headers_of_some given isSome
  refine ⟨withHeaders_eq _, ?_, fun noNull idle => ?_⟩
  · rw [isComment]
    exact Run.preface_isRemark_iff text
  · have areHeaders : ∀ header ∈ Run.headers request, IsHeader header := by
      rw [isComment]
      exact List.forall_mem_singleton.mpr (Run.isHeader_comment noNull idle)
    have rendered (settings : Settings) (filters : List Schema.TypeFilter) (load : Unit → Schema.Loading) (api : Api)
        (done : (Generation.run settings filters load).outcome = .ok api) :=
      (Generation.coherent_of_run done).render_behind (Generation.accessors_named_of_run done) areHeaders
    refine ⟨fun settings filters load api done =>
      ⟨fun file items isFile => ?_, rendered settings filters load api done⟩, fun workspace => run_agrees rendered⟩
    rw [← withHeaders_eq]
    exact (Generation.coherent_of_run done).files_sayAlike (Generation.accessors_named_of_run done) areHeaders isFile

/-! Headers of two lines, in front of the files of a schema with names that are hard to write. -/

/-- The command for a schema with a header. -/
def Request.headed (header : String) : Request := { Request.forSchema "s.graphql" with header? := some header }

open Projection.Reserved

/-- A further line that is a comment makes a header of comments, behind which all files are given out. -/
theorem Request.commented_twice :
    (∀ line ∈ Text.lines (preface (Run.headers (headed "a\n# b"))).toList, isRemark line = true) ∧
    ∃ files, render {} [] [] api = .ok files ∧
      render {} (Run.headers (headed "a\n# b")) [] api = .ok (files.map (behind "# a\n# b\n\n")) := by
  have given : (headed "a\n# b").header? = some "a\n# b" := rfl
  have front : preface (Run.headers (headed "a\n# b")) = "# a\n# b\n\n" := by decide
  have further : ∀ line ∈ (Text.lines "a\n# b".toList).tail, isRemark line = true := by decide
  obtain ⟨_, remarks, unchanged⟩ := run_of_header given (by decide)
  obtain ⟨each, _⟩ := unchanged (by decide) fun line member => isIdle_of_isRemark (further line member)
  have unique : checkUnique [] (moduleSources api {}) = .ok () := by decide
  have packages : ∀ package ∈ [({} : Settings).packageName, ({} : Settings).clientPart], IsImportable package.text := by
    decide
  have noHeaders : ∀ header ∈ ([] : List String), IsHeader header := by simp
  have plain := render_of_readCode unique (Generation.layOut_reads generated packages documentable noHeaders)
  refine ⟨remarks.mpr further, _, plain, ?_⟩
  rw [(each _ _ _ _ generated).2, plain, front]
  rfl

/-- A file behind a header that goes on with a statement has this statement in front of its own. -/
theorem spells_pass {items : List Grammar.Meaning} {text : String} (spells : Spells items text) :
    Spells ((lineKinds [.word "pass"], Grammar.passing.Fits) :: items) ("# a\npass\n\n" ++ text) := by
  have whole : ("# a\npass\n\n" ++ text).toList
      = "# a\n".toList ++ ((Row.line 0 [.word "pass"]).text ++ (Row.blank.text ++ text.toList)) := by
    simp [Row.text, Part.text]
  have isLine : IsLine [.word "pass"] := (IsPhrase.word (by decide)).isLine
  have comment : ∀ line ∈ Text.splitAt '\n' "# a".toList, isIdle line = true := by decide
  constructor
  · rw [whole]
    simpa [Row.text, Part.text] using spells.noNull
  · have arranged : Indentation.arrange ⟨0, 0⟩ [] = some ([], []) := rfl
    have statement := (isLine.leads arranged _).scans ((Row.leads_blank text.toList).scans spells.scans)
    rw [whole, Text.unifyLineEnds_append (by decide)]
    exact (Leads.idleLines comment).scans statement

/-- A further line that is a statement makes a header that adds it to a file. -/
theorem Request.statement_added :
    (¬ ∀ line ∈ Text.lines (preface (Run.headers (headed "a\npass"))).toList, isRemark line = true) ∧
    ∃ file ∈ layOut (moduleSources api {}), ∃ code twin, readCode file.2 = .ok twin ∧
      readCode (withHeaders (Run.headers (headed "a\npass")) file.2) = .ok code ∧ code.length = twin.length + 1 := by
  refine ⟨by decide, ?_⟩
  have front : preface (Run.headers (headed "a\npass")) = "# a\npass\n\n" := by decide
  have exportable := exportable_of_coherent (Generation.coherent_of_run generated)
  have listed : ⟨({} : Settings).clientPackage, projectionsModule, "Generated GraphQL projections.",
      api.clientProjections⟩ ∈ moduleSources api {} := List.mem_filter.mpr ⟨List.mem_cons_self, rfl⟩
  have onTheWay : "generated" ∈ packagesTo ({} : Settings).clientPackage := by decide
  have spells := packageFile_spells exportable "generated"
  obtain ⟨twin, read, meant⟩ := spells.readCode (takes_packageMeanings exportable) (reaches_packageMeanings _ _)
  obtain ⟨code, headedRead, headedMeant⟩ := (spells_pass spells).readCode
    (List.forall_mem_cons.mpr ⟨⟨0, by decide, Grammar.takes_passing⟩, takes_packageMeanings exportable⟩)
    (List.forall_mem_cons.mpr ⟨reaches_passing.mono (by decide), reaches_packageMeanings _ _⟩)
  refine ⟨_, mem_layOut.mpr ⟨_, .package listed onTheWay⟩, code, twin, read, ?_, ?_⟩
  · rw [withHeaders_eq, front]
    exact headedRead
  · rw [← meant.length_eq, ← headedMeant.length_eq, List.length_cons]

end CommandLine

end SelectionGen
