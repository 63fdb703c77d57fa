import SelectionGen.Proofs.Archives
import SelectionGen.Proofs.ListedDirectories

/-! What becomes of the temporary directories that archives are unpacked into. A directory is noted down to be removed
when its archive has been unpacked, and what is noted down is removed one after the other when the command ends, up to
the first that resists. So a directory is left where an archive could not be unpacked, and where removing got stuck. -/
namespace SelectionGen

namespace CommandLine

open Files Run

/-! Which directories are noted down when a run ends. -/

/-- No temporary directory lies in another one. -/
def Workspace.Apart (workspace : Workspace) : Prop :=
  ∀ index other, workspace.temporary index <+: workspace.temporary other → index = other

theorem Workspace.Apart.ne_nil {workspace : Workspace} (apart : workspace.Apart) (index : Nat) :
    workspace.temporary index ≠ [] := by
  intro top
  have next : index = index + 1 := apart index (index + 1) (top ▸ List.nil_prefix)
  omega

/-- So many temporary directories are there, and are noted down to be removed. -/
structure Registered (workspace : Workspace) (count : Nat) (progress : Progress) : Prop where
  temporaries : progress.temporaries = (List.range count).map workspace.temporary
  listed : ∀ index < count, workspace.temporary index ∈ progress.tree.directories

/-- How a run leaves its temporary directories when it ends early: all are noted down, or an archive was the last thing
it went about, and the directory made for it is not noted down. It is gone if there was no format to unpack it by, and
otherwise it is still there. -/
inductive LeavesOff (workspace : Workspace) : Ending → Progress → Prop
  | registered {ending : Ending} {progress : Progress} (other : ∀ error, ending ≠ .broken (.archive error))
    (registered : Registered workspace progress.made progress) : LeavesOff workspace ending progress
  | refused {suffix : String} {progress : Progress} {count : Nat} (made : progress.made = count + 1)
    (registered : Registered workspace count progress)
    (removed : progress.tree.isPresent (workspace.temporary count) = false) :
    LeavesOff workspace (.broken (.archive (.unsupportedFormat suffix))) progress
  | failed {error : Archive.ArchiveError} {progress : Progress} {count : Nat}
    (unpacking : ∀ suffix, error ≠ .unsupportedFormat suffix) (made : progress.made = count + 1)
    (registered : Registered workspace count progress)
    (stays : workspace.temporary count ∈ progress.tree.directories) :
    LeavesOff workspace (.broken (.archive error)) progress

namespace Run

variable {α : Type} {workspace : Workspace}

/-- A part of a run that starts with all temporary directories noted down goes on so, or leaves off. -/
abbrev Registers (workspace : Workspace) (part : Run α) : Prop :=
  part.Keeps (fun progress => Registered workspace progress.made progress) (LeavesOff workspace)

theorem registers_settles (workspace : Workspace) :
    Settles (fun progress => Registered workspace progress.made progress) (LeavesOff workspace) where
  said _ _ registered := ⟨registered.temporaries, registered.listed⟩
  left _ other _ registered := .registered other registered

theorem registers_writeFiles (output : Place) (settings : Settings) (headers : List String) (api : Api) :
    Registers workspace (writeFiles output settings headers api) := by
  refine .looking fun progress registered => .bind (.set ⟨registered.temporaries, fun index made => ?_⟩) fun _ => ?_
  · exact Target.lists_write settings headers [] api _ _ progress.tree (registered.listed index made)
  · refine .orFinish fun error _ kept => .registered (fun fault same => ?_) kept
    cases error with
    | writing error => cases same
    | files error =>
      dsimp only at same
      split at same <;> cases same

theorem registers_unpackSchema (apart : workspace.Apart) (place : Place) :
    Registers workspace (unpackSchema workspace place) := by
  rintro progress result after registered ran
  have opened : Registered workspace progress.made (withTemporary workspace progress) :=
    ⟨registered.temporaries, fun index made => Tree.Lists.addDirectory _ _ (registered.listed index made)⟩
  have made : workspace.temporary progress.made ∈ (withTemporary workspace progress).tree.directories := by
    simp [withTemporary, Tree.addDirectory]
  rw [run_unpackSchema] at ran
  dsimp only at ran
  split at ran
  · cases ran
    refine .refused rfl ⟨registered.temporaries, fun index made => ?_⟩ (Tree.isPresent_remove (apart.ne_nil _))
    exact Tree.listed_remove (opened.listed index made) fun inside => absurd (apart _ _ inside) (by omega)
  · split at ran
    · rename_i failed
      cases ran
      exact .failed (ne_unsupportedFormat_of_unpack failed) rfl ⟨opened.temporaries, opened.listed⟩ made
    · rename_i unpacked done
      cases ran
      have listed := Archive.lists_unpack _ _ _ _ unpacked done
      refine ⟨?_, fun index before => ?_⟩
      · show progress.temporaries ++ _ = (List.range (progress.made + 1)).map _
        rw [registered.temporaries, List.range_succ, List.map_append, List.map_singleton]
      · rcases Nat.lt_succ_iff_lt_or_eq.mp before with earlier | rfl
        · exact listed (opened.listed index earlier)
        · exact listed made

/-- So the whole command notes down what it makes, up to an archive that it cannot unpack. -/
theorem registers_generate (apart : workspace.Apart) (request : Request) :
    Registers workspace (generate workspace request) :=
  keeps_generate (registers_settles workspace) request (registers_unpackSchema apart) registers_writeFiles

end Run

/-! Which directories are gone when all that is noted down was to be removed. -/

section Removal

variable {tree cleared : Tree} {front back places : List Place} {place : Place}

/-- Removing goes on behind what could be removed. -/
theorem removeEach_append (removed : removeEach tree front = (cleared, none)) (back : List Place) :
    removeEach tree (front ++ back) = removeEach cleared back := by
  induction front generalizing tree with
  | nil =>
    cases removed
    rfl
  | cons place front ih =>
    rw [List.cons_append, removeEach]
    rw [removeEach] at removed
    split at removed
    · exact ih removed
    · cases removed

/-- All is removed, or there is a first place that resists. -/
theorem removed_or_resists (tree : Tree) (places : List Place) :
    (∃ cleared, removeEach tree places = (cleared, none)) ∨
    ∃ front place back cleared error, places = front ++ place :: back ∧ removeEach tree front = (cleared, none) ∧
      cleared.removeAll place = .error error ∧ removeEach tree places = (cleared, some error) := by
  induction places generalizing tree with
  | nil => exact .inl ⟨tree, rfl⟩
  | cons first rest ih =>
    cases removed : tree.removeAll first with
    | error error => exact .inr ⟨[], first, rest, tree, error, rfl, rfl, removed, by rw [removeEach, removed]⟩
    | ok between =>
      rcases ih between with ⟨cleared, all⟩ | ⟨front, place, back, cleared, error, rfl, before, resists, stopped⟩
      · exact .inl ⟨cleared, by rw [removeEach, removed]; exact all⟩
      · refine .inr ⟨first :: front, place, back, cleared, error, rfl, ?_, resists, ?_⟩
        · rw [removeEach, removed]
          exact before
        · rw [removeEach, removed]
          exact stopped

theorem isPresent_of_removeEach (places : List Place) (present : (removeEach tree places).1.isPresent place = true) :
    tree.isPresent place = true := by
  induction places generalizing tree with
  | nil => exact present
  | cons first rest ih =>
    rw [removeEach] at present
    split at present
    · rename_i between removed
      rw [Tree.eq_remove_of_removeAll removed] at present
      exact Tree.isPresent_of_remove (ih present)
    · exact present

/-- What could be removed is gone. -/
theorem isPresent_removed (removed : removeEach tree places = (cleared, none)) (member : place ∈ places)
    (below : place ≠ []) : cleared.isPresent place = false := by
  induction places generalizing tree with
  | nil => cases member
  | cons first rest ih =>
    rw [removeEach] at removed
    split at removed
    · rename_i between gone
      rcases List.mem_cons.mp member with rfl | later
      · rw [← Bool.not_eq_true]
        intro present
        have before : (removeEach between rest).1.isPresent place = true := by rwa [removed]
        have still := isPresent_of_removeEach rest before
        rw [Tree.eq_remove_of_removeAll gone, Tree.isPresent_remove below] at still
        cases still
      · exact ih removed later
    · cases removed

/-- What lies outside is still listed. -/
theorem listed_removeEach (places : List Place) (listed : place ∈ tree.directories)
    (outside : ∀ other ∈ places, ¬ other <+: place) : place ∈ (removeEach tree places).1.directories := by
  induction places generalizing tree with
  | nil => exact listed
  | cons first rest ih =>
    obtain ⟨here, later⟩ := List.forall_mem_cons.mp outside
    rw [removeEach]
    split
    · rename_i between removed
      rw [Tree.eq_remove_of_removeAll removed]
      exact ih (Tree.listed_remove listed here) later
    · exact listed

theorem range_split (f : Nat → Place) {stuck count : Nat} (below : stuck < count) :
    ∃ back, (List.range count).map f = (List.range stuck).map f ++ f stuck :: back := by
  obtain ⟨more, rfl⟩ := Nat.exists_eq_add_of_lt below
  refine ⟨((List.range more).map (stuck + 1 + ·)).map f, ?_⟩
  rw [show stuck + more + 1 = stuck + 1 + more by omega, List.range_add, List.range_succ]
  simp

end Removal

section Left

variable {workspace : Workspace} {progress : Progress} {request : Request} {count : Nat}

/-- A temporary directory that is noted down resists when its turn comes to be removed. -/
def Resists (workspace : Workspace) (progress : Progress) (stuck : Nat) : Prop :=
  stuck < progress.temporaries.length ∧ ∃ cleared error,
    removeEach progress.tree ((List.range stuck).map workspace.temporary) = (cleared, none) ∧
      cleared.removeAll (workspace.temporary stuck) = .error error

/-- Where so many directories could be removed, none of them resists. -/
theorem not_resists_of_removed {cleared : Tree} {stuck : Nat}
    (removed : removeEach progress.tree ((List.range count).map workspace.temporary) = (cleared, none))
    (below : stuck < count) : ¬ Resists workspace progress stuck := by
  rintro ⟨-, between, error, before, resists⟩
  obtain ⟨back, split⟩ := range_split workspace.temporary below
  rw [split, removeEach_append before, removeEach, resists] at removed
  cases removed

/-- A directory that is noted down is left exactly if it or an earlier one resists. -/
theorem Registered.isPresent_iff (registered : Registered workspace count progress) (apart : workspace.Apart)
    {index : Nat} (below : index < count) :
    (removeEach progress.tree progress.temporaries).1.isPresent (workspace.temporary index) = true ↔
      ∃ stuck ≤ index, Resists workspace progress stuck := by
  have noted := registered.temporaries
  have member {stuck : Nat} (earlier : index < stuck) :
      workspace.temporary index ∈ (List.range stuck).map workspace.temporary :=
    List.mem_map_of_mem (List.mem_range.mpr earlier)
  rcases removed_or_resists progress.tree progress.temporaries with
    ⟨cleared, all⟩ | ⟨front, place, back, cleared, error, parts, before, resists, stopped⟩
  · rw [all]
    rw [noted] at all
    refine iff_of_false ?_ ?_
    · simp [isPresent_removed all (member below) (apart.ne_nil index)]
    · rintro ⟨stuck, earlier, resists⟩
      exact not_resists_of_removed all (by omega) resists
  · -- The directory that resists is told by how many come before it.
    have length : count = front.length + (back.length + 1) := by
      have same := congrArg List.length (noted.symm.trans parts)
      simpa using same
    have first : front.length < count := by omega
    obtain ⟨others, split⟩ := range_split workspace.temporary first
    obtain ⟨isFront, same⟩ := List.append_inj (parts.symm.trans (noted.trans split)) (by simp)
    obtain ⟨rfl, -⟩ := List.cons.inj same
    generalize front.length = stuck at *
    subst isFront
    have inRange : stuck < progress.temporaries.length := by rw [noted]; simpa using first
    rw [stopped]
    by_cases earlier : index < stuck
    · refine iff_of_false ?_ ?_
      · simp [isPresent_removed before (member earlier) (apart.ne_nil index)]
      · rintro ⟨other, notBehind, resistsToo⟩
        exact not_resists_of_removed before (by omega) resistsToo
    · refine iff_of_true ?_ ⟨stuck, by omega, inRange, cleared, error, before, resists⟩
      have outside : ∀ other ∈ (List.range stuck).map workspace.temporary, ¬ other <+: workspace.temporary index := by
        intro other removed inside
        obtain ⟨number, inFront, rfl⟩ := List.mem_map.mp removed
        have same := apart _ _ inside
        have before := List.mem_range.mp inFront
        omega
      have listed := listed_removeEach _ (registered.listed index below) outside
      rw [before] at listed
      exact Tree.isPresent_of_listed listed

theorem Registered.length (registered : Registered workspace count progress) : progress.temporaries.length = count := by
  simp [registered.temporaries]

/-- What lies outside of all that was noted down is left if it is listed, and stays away if it is gone. -/
theorem Registered.last (registered : Registered workspace count progress) (apart : workspace.Apart) :
    (workspace.temporary count ∈ progress.tree.directories →
      (removeEach progress.tree progress.temporaries).1.isPresent (workspace.temporary count) = true) ∧
    (progress.tree.isPresent (workspace.temporary count) = false →
      (removeEach progress.tree progress.temporaries).1.isPresent (workspace.temporary count) = false) := by
  constructor
  · intro listed
    refine Tree.isPresent_of_listed (listed_removeEach _ listed fun other member inside => ?_)
    rw [registered.temporaries] at member
    obtain ⟨number, inRange, rfl⟩ := List.mem_map.mp member
    have same := apart _ _ inside
    have before := List.mem_range.mp inRange
    omega
  · intro gone
    rw [← Bool.not_eq_true]
    intro present
    simp [isPresent_of_removeEach _ present] at gone

theorem run_tree {result : Except Ending Unit}
    (ran : (Run.generate workspace request).run ⟨[], workspace.tree, 0, []⟩ = (result, progress)) :
    (request.run workspace).tree = (removeEach progress.tree progress.temporaries).1 := by
  unfold Request.run
  rw [ran]

/-- A command that finishes leaves none of the directories that it made. -/
theorem isPresent_of_finished (apart : workspace.Apart) {result : Except Ending Unit}
    (ran : (Run.generate workspace request).run ⟨[], workspace.tree, 0, []⟩ = (result, progress))
    (finished : (request.run workspace).ending = .finished) {index : Nat} (made : index < progress.made) :
    (request.run workspace).tree.isPresent (workspace.temporary index) = false := by
  have leaves := Run.registers_generate apart request _ _ _ ⟨rfl, by simp⟩ ran
  rw [run_tree ran]
  cases removed : removeEach progress.tree progress.temporaries with
  | mk cleared resistance? =>
    simp only [Request.run, ran, removed] at finished
    cases resistance? with
    | some error => cases finished
    | none =>
      cases result with
      | error ending =>
        -- A run that finishes is not one that ended early.
        obtain rfl : ending = .finished := finished
        cases Run.generate_endsIn workspace request _ _ _ ran
      | ok _ =>
        have registered : Registered workspace progress.made progress := leaves
        have member : workspace.temporary index ∈ progress.temporaries := by
          rw [registered.temporaries]
          exact List.mem_map_of_mem (List.mem_range.mpr made)
        exact isPresent_removed removed member (apart.ne_nil index)

/-- **Which temporary directories outlive the command.** When it ends, of the directories that were made for archives
the one that an archive could not be unpacked into is left, because it is noted down only after that, unless there was
no format to unpack by; and where a directory that was noted down resists being removed, it is left and so are those
noted down behind it. All others are gone, so all are if the command finishes. -/
theorem temporaries_left_iff (apart : workspace.Apart) {result : Except Ending Unit}
    (ran : (Run.generate workspace request).run ⟨[], workspace.tree, 0, []⟩ = (result, progress)) :
    (∀ index < progress.made, (request.run workspace).tree.isPresent (workspace.temporary index) = true ↔
      (index + 1 = progress.made ∧ ∃ error, result = .error (.broken (.archive error)) ∧
        ∀ suffix, error ≠ .unsupportedFormat suffix) ∨
      index < progress.temporaries.length ∧ ∃ stuck ≤ index, Resists workspace progress stuck) ∧
    ((request.run workspace).ending = .finished →
      ∀ index < progress.made, (request.run workspace).tree.isPresent (workspace.temporary index) = false) := by
  have final := run_tree ran
  have leaves := Run.registers_generate apart request _ _ _ ⟨rfl, by simp⟩ ran
  have noted (registered : Registered workspace progress.made progress)
      (other : ∀ error, result ≠ .error (.broken (.archive error))) (index : Nat) (made : index < progress.made) :
      (request.run workspace).tree.isPresent (workspace.temporary index) = true ↔
        (index + 1 = progress.made ∧ ∃ error, result = .error (.broken (.archive error)) ∧
          ∀ suffix, error ≠ .unsupportedFormat suffix) ∨
        index < progress.temporaries.length ∧ ∃ stuck ≤ index, Resists workspace progress stuck := by
    rw [final, registered.isPresent_iff apart made, registered.length]
    simp [made, other]
  constructor
  · cases result with
    | ok _ => exact noted leaves (by simp)
    | error ending =>
      cases leaves with
      | registered other registered => exact noted registered (by simpa using other)
      | @refused suffix _ count made registered removed =>
        intro index below
        rw [final, registered.length]
        rcases Nat.lt_succ_iff_lt_or_eq.mp (made ▸ below) with earlier | rfl
        · rw [registered.isPresent_iff apart earlier]
          simp [earlier]
        · simp [(registered.last apart).2 removed]
      | @failed error _ count unpacking made registered stays =>
        intro index below
        rw [final, registered.length]
        rcases Nat.lt_succ_iff_lt_or_eq.mp (made ▸ below) with earlier | rfl
        · have notLast : index + 1 ≠ progress.made := by omega
          rw [registered.isPresent_iff apart earlier]
          simp [earlier, notLast]
        · simp [(registered.last apart).1 stays, made, unpacking]
  · exact fun finished index => isPresent_of_finished apart ran finished

end Left

/-! An empty file that is taken for an archive. -/

section Instances

theorem apart_emptyFile (name : String) : (emptyFile name).Apart := by
  intro index other inside
  have same : (emptyFile name).temporary index = (emptyFile name).temporary other := inside.eq_of_length rfl
  have names := congrArg (fun place : Place => (place.getLastD "").toList.length) same
  simpa [emptyFile] using names

/-- Without links the output goes where its path says. -/
theorem run_outputPlace {progress : Progress} (unlinked : progress.tree.links = []) (current : Place)
    (output : String) : (outputPlace current output).run progress
      = (.ok (absolutePlace current (Path.ofString output)), progress) := by
  rw [outputPlace, run_bind]
  show (Run.orFinish (atPath _ (progress.tree.settle _ _ _)) _).run progress = _
  rw [Tree.settle_of_unlinked unlinked]
  rfl

/-- A schema that ends a run ends the command for it. -/
theorem run_forSchema {workspace : Workspace} {schema : String} {ending : Ending} {after : Progress}
    (unlinked : workspace.tree.links = [])
    (ends : (schemaPath workspace false schema).run ⟨[], workspace.tree, 0, []⟩ = (.error ending, after)) :
    (generate workspace (.forSchema schema)).run ⟨[], workspace.tree, 0, []⟩ = (.error ending, after) := by
  have listed : ((Request.forSchema schema).schemas.mapM
      (schemaPath workspace (Request.forSchema schema).verbose)).run ⟨[], workspace.tree, 0, []⟩
        = (.error ending, after) := by
    show ([schema].mapM (schemaPath workspace false)).run _ = _
    rw [List.mapM_cons, run_bind, ends]
  have output (output : String) : (outputPlace workspace.current output).run ⟨[], workspace.tree, 0, []⟩ = _ :=
    run_outputPlace unlinked workspace.current output
  unfold generate
  dsimp only
  rw [run_bind, output]
  dsimp only
  rw [run_bind]
  show (_ : Run Unit).run ⟨[], workspace.tree, 0, []⟩ = _
  rw [run_bind, listed]

/-- A file that is no archive in spite of its name leaves the directory that it was to be unpacked into. -/
theorem generate_empty_zip :
    (generate (emptyFile "a.zip") (.forSchema "a.zip")).run ⟨[], (emptyFile "a.zip").tree, 0, []⟩
      = (.error (.broken (.archive (.zip (.directory .missing)))),
          { lines := ["Extracting archive a.zip..."]
            tree := { files := [(["a.zip"], .empty)], directories := [["tmp", "x"]] }
            made := 1
            temporaries := [] }) :=
  run_forSchema rfl (run_empty_zip false)

/-- The one directory that was made is left. -/
theorem empty_zip_left :
    (emptyFile "a.zip").Apart ∧
    ((Request.forSchema "a.zip").run (emptyFile "a.zip")).tree.isPresent ((emptyFile "a.zip").temporary 0) = true := by
  refine ⟨apart_emptyFile _, ?_⟩
  rw [(temporaries_left_iff (apart_emptyFile _) generate_empty_zip).1 0 Nat.one_pos]
  exact .inl ⟨rfl, _, rfl, by simp⟩

/-- It was not there before, and it is there when the command has ended with the fault of the archive. -/
theorem empty_zip_leaks :
    (emptyFile "a.zip").tree.isPresent ((emptyFile "a.zip").temporary 0) = false ∧
    ((Request.forSchema "a.zip").run (emptyFile "a.zip")).ending = .broken (.archive (.zip (.directory .missing))) ∧
    ((Request.forSchema "a.zip").run (emptyFile "a.zip")).tree.isPresent ((emptyFile "a.zip").temporary 0) = true := by
  have report : (Request.forSchema "a.zip").run (emptyFile "a.zip")
      = ⟨["Extracting archive a.zip..."], .broken (.archive (.zip (.directory .missing))),
          { files := [(["a.zip"], .empty)], directories := [["tmp", "x"]] }⟩ := by
    unfold Request.run
    rw [generate_empty_zip]
    rfl
  rw [report]
  exact ⟨by decide, rfl, by decide⟩

end Instances

end CommandLine

end SelectionGen
