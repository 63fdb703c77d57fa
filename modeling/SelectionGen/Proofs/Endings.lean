import SelectionGen.CommandLine.Run

/-! How runs of the program end. A run is put together from parts, and each way in which it can end is that of a part,
whatever was printed and written in front of it. So what may be said of all endings is said of each part by itself.
Faults of the files that are written end a run in two ways, by whether they are reported. -/
namespace SelectionGen.CommandLine

/-- How a run can end that does not finish. -/
inductive Ending.OfRun : Ending → Prop
  | misused (scope : Scope) (error : UsageError) : OfRun (.misused scope error)
  | settings (form : Settings.Form) (faults : List Settings.SettingsFault) : OfRun (.refused (.settings form faults))
  | schema (error : Sdl.SyntaxError) : OfRun (.refused (.schema error))
  | clash (clash : Projection.Clash) : OfRun (.refused (.clash clash))
  | reported {error : Target.RenderError} (reported : error.isAbrupt = false) : OfRun (.refused (.files error))
  | zeroInPath : OfRun (.broken .zeroInPath)
  | encoding (error : Text.Utf8.DecodeError) : OfRun (.broken (.encoding error))
  | archive (error : Archive.ArchiveError) : OfRun (.broken (.archive error))
  | abrupt {error : Target.RenderError} (abrupt : error.isAbrupt = true) : OfRun (.broken (.rendering error))
  | files (error : Files.FileError) : OfRun (.broken (.files error))

namespace Run

open Files Ending

section Parts

variable {α β ε : Type} {ways : Ending → Prop}

/-- What stands behind a part of a run is run where that part leaves off, unless it ends the run. -/
theorem run_bind (part : Run α) (next : α → Run β) (progress : Progress) :
    (part >>= next).run progress = match part.run progress with
      | (.ok value, between) => (next value).run between
      | (.error ending, between) => (.error ending, between) := by
  rw [ExceptT.run_bind]
  simp only [Bind.bind, StateT.bind]
  cases part.run progress with
  | mk result between => cases result <;> rfl

/-- A part of a run that starts where something holds goes on where that holds, or ends the run as told. -/
def Keeps (holds : Progress → Prop) (ends : Ending → Progress → Prop) (part : Run α) : Prop :=
  ∀ progress result after, holds progress → part.run progress = (result, after) →
    match result with
    | .ok _ => holds after
    | .error ending => ends ending after

namespace Keeps

variable {holds : Progress → Prop} {ends : Ending → Progress → Prop}

theorem pure (value : α) : Keeps holds ends (Pure.pure value : Run α) := by
  rintro progress _ _ held ⟨⟩
  exact held

theorem get : Keeps holds ends (MonadState.get : Run Progress) := by
  rintro progress _ _ held ⟨⟩
  exact held

theorem set {progress : Progress} (held : holds progress) :
    Keeps holds ends (MonadStateOf.set progress : Run PUnit) := by
  rintro before _ _ - ⟨⟩
  exact held

theorem change {f : Progress → Progress} (kept : ∀ progress, holds progress → holds (f progress)) :
    Keeps holds ends (modify f : Run PUnit) := by
  rintro progress _ _ held ⟨⟩
  exact kept progress held

theorem finish {ending : Ending} (left : ∀ progress, holds progress → ends ending progress) :
    Keeps holds ends (Run.finish ending : Run α) := by
  rintro progress _ _ held ⟨⟩
  exact left progress held

theorem orFinish {result : Except ε α} {ending : ε → Ending}
    (left : ∀ error progress, holds progress → ends (ending error) progress) :
    Keeps holds ends (Run.orFinish result ending) := by
  cases result with
  | ok value => exact pure value
  | error error => exact finish (left error)

theorem bind {part : Run α} {next : α → Run β} (first : Keeps holds ends part)
    (behind : ∀ value, Keeps holds ends (next value)) : Keeps holds ends (part >>= next) := by
  intro progress result after held ran
  rw [run_bind] at ran
  cases ranFirst : part.run progress with
  | mk outcome between =>
    have middle := first progress outcome between held ranFirst
    rw [ranFirst] at ran
    cases outcome with
    | ok value => exact behind value between result after middle ran
    | error ending =>
      cases ran
      exact middle

/-- What is looked at is where something holds. -/
theorem looking {next : Progress → Run β} (behind : ∀ progress, holds progress → Keeps holds ends (next progress)) :
    Keeps holds ends (MonadState.get >>= next) := by
  intro progress result after held ran
  exact behind progress held progress result after held ran

/-- What stands behind the end of a run has no part in it. -/
theorem finished {ending : Ending} {next : α → Run β} (left : ∀ progress, holds progress → ends ending progress) :
    Keeps holds ends (Run.finish ending >>= next) := by
  rintro progress _ _ held ⟨⟩
  exact left progress held

theorem mapM {part : α → Run β} (each : ∀ item, Keeps holds ends (part item)) (items : List α) :
    Keeps holds ends (items.mapM part) := by
  induction items with
  | nil => exact pure []
  | cons item items ih =>
    rw [List.mapM_cons]
    exact (each item).bind fun _ => ih.bind fun _ => pure _

/-- What is printed does not matter to what holds. -/
theorem sayAll (said : ∀ line, Keeps holds ends (say line)) (lines : List String) :
    Keeps holds ends (Run.sayAll lines) := by
  induction lines with
  | nil => exact pure PUnit.unit
  | cons line lines ih => exact (said line).bind fun _ => ih

end Keeps

/-! What each part of the command that generates code keeps. -/

/-- What holds still holds when something was printed, and faults other than those of archives end a run where it holds.
-/
structure Settles (holds : Progress → Prop) (ends : Ending → Progress → Prop) : Prop where
  said (progress : Progress) (line : String) (held : holds progress) :
    holds { progress with lines := progress.lines ++ [line] }
  left {ending : Ending} (isWay : ending.OfRun) (other : ∀ error, ending ≠ .broken (.archive error))
    (progress : Progress) (held : holds progress) : ends ending progress

section Generate

variable {holds : Progress → Prop} {ends : Ending → Progress → Prop} {workspace : Workspace}
  (settles : Settles holds ends)

include settles

theorem keeps_say (line : String) : (say line).Keeps holds ends := .change fun progress => settles.said progress line

theorem keeps_readSettings (current : Place) (path : String) : (readSettings current path).Keeps holds ends :=
  .bind .get fun _ => .bind (.orFinish fun error => settles.left (.files error) (by simp)) fun _ =>
    .bind (.orFinish fun error => settles.left (.encoding error) (by simp)) fun _ =>
      .orFinish fun faults => settles.left (.settings .text faults) (by simp)

theorem keeps_outputPlace (current : Place) (output : String) : (outputPlace current output).Keeps holds ends :=
  .bind .get fun _ => .orFinish fun error => settles.left (.files error) (by simp)

theorem keeps_chooseSettings (current : Place) (request : Request) :
    (chooseSettings current request).Keeps holds ends := by
  unfold chooseSettings
  cases request.settings?
  case' none => refine .bind (.pure _) fun settings => ?_
  case' some path => refine .bind (keeps_readSettings settles _ _) fun settings => ?_
  -- What the other arguments say is taken in alike, whether or not there is a file.
  all_goals
    refine .bind (.orFinish fun error => settles.left (.misused _ _) (by simp)) fun includes => ?_
    dsimp only
    split
    · exact .pure _
    · split
      · exact .pure _
      · exact .finish (settles.left (.settings _ _) (by simp))

theorem keeps_schemaPath (verbose : Bool) (argument : String)
    (unpacks : ∀ place, (unpackSchema workspace place).Keeps holds ends) :
    (schemaPath workspace verbose argument).Keeps holds ends := by
  refine .bind .get fun progress => ?_
  dsimp only
  cases progress.tree.find? workspace.current argument with
  | none => exact .finish (settles.left (.misused _ _) (by simp))
  | some place =>
    dsimp only
    split
    · refine .bind (keeps_say settles _) fun _ => .bind (unpacks _) fun _ => ?_
      cases verbose with
      | true => exact .bind (keeps_say settles _) fun _ => .pure _
      | false => exact .pure _
    · exact .pure _

theorem keeps_generateApi (settings : Settings) : (generateApi workspace settings).Keeps holds ends := by
  refine .bind .get fun progress => .orFinish fun error => ?_
  cases error with
  | clash clash => exact settles.left (.clash clash) (by simp)
  | load error =>
    cases error with
    | zeroInPath => exact settles.left .zeroInPath (by simp)
    | reading error => exact settles.left (.files error) (by simp)
    | encoding error => exact settles.left (.encoding error) (by simp)
    | grammar _ error => exact settles.left (.schema error) (by simp)

/-- What the parts keep that change the tree is kept by the whole. -/
theorem keeps_generate (request : Request) (unpacks : ∀ place, (unpackSchema workspace place).Keeps holds ends)
    (writes : ∀ output settings headers api, (writeFiles output settings headers api).Keeps holds ends) :
    (generate workspace request).Keeps holds ends := by
  have said (line : String) : (say line).Keeps holds ends := keeps_say settles line
  refine .bind (keeps_outputPlace settles _ _) fun output => .bind (keeps_chooseSettings settles _ _) fun settings =>
    .bind (.mapM (fun argument => keeps_schemaPath settles _ argument unpacks) _) fun given => ?_
  dsimp only
  split
  · exact .finished (settles.left (.misused _ _) (by simp))
  · cases request.verbose with
    | true =>
      exact .bind (.sayAll said _) fun _ => .bind (said _) fun _ => .bind (said _) fun _ => .bind (said _) fun _ =>
        .bind (keeps_generateApi settles _) fun _ => .bind (said _) fun _ => .bind (said _) fun _ =>
          .bind (said _) fun _ => .bind (writes _ _ _ _) fun _ => .bind (.sayAll said _) fun _ => said _
    | false =>
      exact .bind (said _) fun _ => .bind (keeps_generateApi settles _) fun _ => .bind (said _) fun _ =>
        .bind (writes _ _ _ _) fun _ => said _

end Generate

/-! How runs end, wherever that may be. -/

/-- Wherever a part of a run ends it, it does so in one of these ways. -/
def EndsIn (ways : Ending → Prop) (part : Run α) : Prop :=
  ∀ progress ending after, part.run progress = (.error ending, after) → ways ending

theorem Keeps.endsIn {part : Run α} (keeps : part.Keeps (fun _ => True) fun ending _ => ways ending) :
    part.EndsIn ways :=
  fun progress ending after ran => keeps progress (.error ending) after trivial ran

end Parts

theorem generate_endsIn (workspace : Workspace) (request : Request) : (generate workspace request).EndsIn OfRun := by
  refine (keeps_generate ⟨fun _ _ _ => trivial, fun isWay _ _ _ => isWay⟩ request ?_ ?_).endsIn
  · intro place
    refine .bind (.bind .get fun _ => .bind (.set trivial) fun _ => .pure _) fun directory => ?_
    split
    · exact .bind (.change fun _ => id) fun _ => .finish fun _ _ => .archive _
    · exact .bind .get fun _ => .bind (.orFinish fun error _ _ => .archive error) fun _ =>
        .bind (.change fun _ => id) fun _ => .pure _
  · intro output settings headers api
    refine .bind .get fun progress => .bind (.set trivial) fun _ => .orFinish fun error _ _ => ?_
    cases error with
    | writing error => exact .files error
    | files error =>
      cases isAbrupt : error.isAbrupt with
      | true => simpa [isAbrupt] using OfRun.abrupt isAbrupt
      | false => simpa [isAbrupt] using OfRun.reported isAbrupt

/-- A fault of the files ends the command before anything is written. -/
theorem writeFiles_of_error {settings : Settings} {headers : List String} {api : Api} {error : Target.RenderError}
    (failed : Target.render settings headers [] api = .error error) (output : Place) (progress : Progress) :
    (writeFiles output settings headers api).run progress
      = (.error (if error.isAbrupt then .broken (.rendering error) else .refused (.files error)), progress) := by
  have written (base directory : String) (tree : Tree) :
      Target.write settings headers [] api base directory tree = ⟨.error (.files error), tree⟩ := by
    rw [Target.write, failed]
  unfold writeFiles
  simp only [written]
  rfl

end Run

theorem Request.run_ending (workspace : Workspace) (request : Request) :
    (request.run workspace).ending = .finished ∨ (request.run workspace).ending.OfRun := by
  unfold Request.run
  cases ran : (Run.generate workspace request).run ⟨[], workspace.tree, 0, []⟩ with
  | mk result progress =>
    cases removed : removeEach progress.tree progress.temporaries with
    | mk tree resistance? =>
      cases resistance? with
      | some error => exact .inr (by simpa [removed] using .files error)
      | none =>
        cases result with
        | error ending =>
          exact .inr (by simpa [removed] using Run.generate_endsIn workspace request _ ending progress ran)
        | ok _ => exact .inl (by simp [removed])

/-- However the program is called, it finishes or ends in one of these ways. -/
theorem run_ending (workspace : Workspace) (arguments : List String) :
    (run workspace arguments).ending = .finished ∨ (run workspace arguments).ending.OfRun := by
  unfold run
  cases Invocation.ofArguments workspace.tree workspace.current arguments with
  | error error =>
    cases error with
    | misuse scope error => exact .inr (.misused scope error)
    | zeroInPath => exact .inr .zeroInPath
  | ok invocation =>
    cases invocation with
    | help _ | version => exact .inl rfl
    | generate request => exact request.run_ending workspace

/-- The command for one schema, without any other arguments. -/
def Request.forSchema (schema : String) : Request where
  schemas := [schema]
  output := "out"
  settings? := none
  package? := none
  includes := []
  header? := none
  verbose := false

end SelectionGen.CommandLine
