import Mathlib.Data.List.TakeWhile
import SelectionGen.Proofs.Endings
import SelectionGen.Proofs.FileTrees

/-! Which files are taken for archives, and which of these are unpacked. Both are told by the ending of a name, but only
what takes a file for an archive overlooks the case of letters, and only what unpacks it wants something in front of the
ending of a zip file. So a file whose name is spelled otherwise is taken for an archive and then refused. -/
namespace SelectionGen.Files.Path

variable {name : String} {ending : List Char}

/-- The suffix of a path is what its name ends with, from a dot on that something stands in front of. -/
theorem suffix_eq_iff {path : Path} (isSome : ending ≠ []) (undotted : '.' ∉ ending) :
    path.suffix = String.ofList ('.' :: ending) ↔ ∃ front, front ≠ [] ∧ path.name.toList = front ++ '.' :: ending := by
  constructor
  · intro same
    have parts := List.takeWhile_append_dropWhile (p := fun c => c != '.') (l := path.name.toList.reverse)
    unfold suffix at same
    dsimp only at same
    split at same
    · rename_i dot last front behind
      have isDot : dot = '.' := by
        have stops := List.head_dropWhile_not (fun c => c != '.') (l := path.name.toList.reverse) (by simp [behind])
        simpa [behind] using stops
      split at same
      · exact absurd (String.ofList_injective same) (by simp)
      · obtain ⟨-, tail⟩ := List.cons.inj (String.ofList_injective same)
        refine ⟨front.reverse ++ [last], by simp, ?_⟩
        rw [behind, isDot, ← List.reverse_inj, List.reverse_append, tail] at parts
        simpa using parts.symm
    · exact absurd (String.ofList_injective same) (by simp)
  · rintro ⟨front, inFront, shape⟩
    obtain ⟨front, last, rfl⟩ := (List.eq_nil_or_concat front).resolve_left inFront
    have moves : ∀ c ∈ ending.reverse, (c != '.') = true := by
      intro c member
      have differs : c ≠ '.' := fun same => undotted (same ▸ List.mem_reverse.mp member)
      simpa using differs
    have reversed : path.name.toList.reverse = ending.reverse ++ '.' :: last :: front.reverse := by simp [shape]
    unfold suffix
    dsimp only
    rw [reversed, List.takeWhile_append_of_pos moves, List.dropWhile_append_of_pos moves]
    simp [isSome]

/-- A name without a slash is the name of its path, unless it is a single dot. -/
theorem name_ofString (whole : '/' ∉ name.toList) : (ofString name).name = if name = "." then "" else name := by
  have alone : splitSlashes name = [name] := by
    rw [splitSlashes, Text.pieces, Text.splitAt_of_not_mem whole]
    simp
  rw [Path.name, ofString]
  simp only [alone, List.filter_cons, List.filter_nil]
  by_cases dot : name = "."
  · simp [dot]
  · by_cases nothing : name = ""
    · simp [nothing]
    · simp [dot, nothing]

end SelectionGen.Files.Path

namespace SelectionGen.Archive

open Files

variable {name : String} {format : Format}

/-- Names that tell how an archive is unpacked. -/
def Format.Tells : Format → String → Prop
  | .zip, name => Text.endsWith ".zip" name = true ∧ name ≠ ".zip"
  | .packedTape, name => Text.endsWith ".tar.gz" name = true ∨ Text.endsWith ".tgz" name = true

theorem endsWith_iff {ending text : String} :
    Text.endsWith ending text = true ↔ ∃ front, text.toList = front ++ ending.toList := by
  rw [Text.endsWith, List.isSuffixOf_iff_suffix]
  exact ⟨fun ⟨front, shape⟩ => ⟨front, shape.symm⟩, fun ⟨front, shape⟩ => ⟨front, shape.symm⟩⟩

/-- No text has two endings of which neither ends the other. -/
theorem not_endsWith_of_endsWith {ending other text : String} (ends : Text.endsWith ending text = true)
    (first : Text.endsWith ending other = false) (second : Text.endsWith other ending = false) :
    ¬ Text.endsWith other text = true := by
  intro endsToo
  simp only [Text.endsWith] at ends endsToo first second
  rcases List.suffix_or_suffix_of_suffix (List.isSuffixOf_iff_suffix.mp ends) (List.isSuffixOf_iff_suffix.mp endsToo)
    with inside | inside
  · rw [List.isSuffixOf_iff_suffix.mpr inside] at first
    cases first
  · rw [List.isSuffixOf_iff_suffix.mpr inside] at second
    cases second

theorem suffix_eq_zip_iff (whole : '/' ∉ name.toList) :
    (Path.ofString name).suffix = ".zip" ↔ Format.zip.Tells name := by
  rw [show (".zip" : String) = String.ofList ('.' :: ['z', 'i', 'p']) from rfl,
    Path.suffix_eq_iff (by decide) (by decide), Path.name_ofString whole, Format.Tells, endsWith_iff]
  constructor
  · rintro ⟨front, inFront, shape⟩
    split at shape
    · exact absurd shape (by simp)
    · refine ⟨⟨front, shape⟩, ?_⟩
      rintro rfl
      have same : [] ++ ".zip".toList = front ++ ".zip".toList := shape
      exact inFront (List.append_cancel_right same).symm
  · rintro ⟨⟨front, shape⟩, more⟩
    refine ⟨front, fun nothing => more (String.toList_injective (by simpa [nothing] using shape)), ?_⟩
    rw [if_neg]
    · exact shape
    · rintro rfl
      have short := congrArg List.length shape
      simp at short

/-- A format is found for a name exactly if the name tells it. -/
theorem ofName?_eq_some_iff (whole : '/' ∉ name.toList) : Format.ofName? name = some format ↔ format.Tells name := by
  unfold Format.ofName?
  by_cases zip : (Path.ofString name).suffix = ".zip"
  · have tells : Format.zip.Tells name := (suffix_eq_zip_iff whole).mp zip
    have noTape : ¬ Format.packedTape.Tells name := by
      rintro (tar | tgz)
      · exact not_endsWith_of_endsWith tar (by decide) (by decide) tells.1
      · exact not_endsWith_of_endsWith tgz (by decide) (by decide) tells.1
    cases format <;> simp [zip, tells, noTape]
  · have silent : ¬ Format.zip.Tells name := mt (suffix_eq_zip_iff whole).mpr zip
    cases format with
    | zip => simp [zip, silent]
    | packedTape => cases tar : Text.endsWith ".tar.gz" name <;> simp [zip, tar, Format.Tells]

/-- The ending of a file that is taken for an archive is written in whatever case. -/
theorem isArchiveName_iff : isArchiveName name = true ↔
    ∃ front written, name.toList = front ++ written ∧ String.ofList (written.map Char.toLower) ∈ endings := by
  simp only [isArchiveName, List.any_eq_true, endsWith_iff, String.toList_ofList]
  constructor
  · rintro ⟨ending, member, front, shape⟩
    obtain ⟨first, written, parts, rfl, lower⟩ := List.map_eq_append_iff.mp shape
    exact ⟨first, written, parts, by rwa [lower, String.ofList_toList]⟩
  · rintro ⟨front, written, parts, member⟩
    exact ⟨_, member, front.map Char.toLower, by rw [parts, List.map_append, String.toList_ofList]⟩

theorem Format.Tells.exists_ending (tells : format.Tells name) :
    ∃ ending ∈ endings, ∃ front, name.toList = front ++ ending.toList := by
  cases format with
  | zip => exact ⟨".zip", by decide, endsWith_iff.mp tells.1⟩
  | packedTape =>
    rcases tells with tar | tgz
    · exact ⟨".tar.gz", by decide, endsWith_iff.mp tar⟩
    · exact ⟨".tgz", by decide, endsWith_iff.mp tgz⟩

theorem lower_of_mem_endings : ∀ ending ∈ endings, ending.toList.map Char.toLower = ending.toList := by decide

theorem eq_of_suffix_of_mem_endings :
    ∀ ending ∈ endings, ∀ other ∈ endings, ending.toList <:+ other.toList → ending = other := by
  decide

/-- Where a name has an ending in lower case, it has no other one in whatever case. -/
theorem written_eq {ending : String} {first front written : List Char} (member : ending ∈ endings)
    (shape : name.toList = first ++ ending.toList) (parts : name.toList = front ++ written)
    (lower : String.ofList (written.map Char.toLower) ∈ endings) : String.ofList written = ending := by
  have inLower : ending.toList <:+ name.toList.map Char.toLower := by
    rw [shape, List.map_append, lower_of_mem_endings ending member]
    exact List.suffix_append ..
  have writtenLower : (String.ofList (written.map Char.toLower)).toList <:+ name.toList.map Char.toLower := by
    rw [parts, List.map_append, String.toList_ofList]
    exact List.suffix_append ..
  have same : ending = String.ofList (written.map Char.toLower) := by
    rcases List.suffix_or_suffix_of_suffix inLower writtenLower with inside | inside
    · exact eq_of_suffix_of_mem_endings _ member _ lower inside
    · exact (eq_of_suffix_of_mem_endings _ lower _ member inside).symm
  have length : ending.toList.length = written.length := by rw [same, String.toList_ofList, List.length_map]
  obtain ⟨-, tails⟩ := List.append_inj' (shape.symm.trans parts) length
  rw [← tails, String.ofList_toList]

/-- What is taken for an archive, and yet does not tell how to unpack it: the bare ending of a zip file, and endings
with capitals. -/
theorem not_tells_iff (taken : isArchiveName name = true) : (∀ format : Format, ¬ format.Tells name) ↔
    name = ".zip" ∨ ∃ front written, name.toList = front ++ written ∧
      String.ofList (written.map Char.toLower) ∈ endings ∧ String.ofList written ∉ endings := by
  constructor
  · intro silent
    obtain ⟨front, written, parts, lower⟩ := isArchiveName_iff.mp taken
    by_cases spelled : String.ofList written ∈ endings
    · left
      have ends : Text.endsWith (String.ofList written) name = true :=
        endsWith_iff.mpr ⟨front, by rw [parts, String.toList_ofList]⟩
      by_contra more
      simp only [endings, List.mem_cons, List.not_mem_nil, or_false] at spelled
      rcases spelled with zip | tar | tgz
      · exact silent .zip ⟨zip ▸ ends, more⟩
      · exact silent .packedTape (.inl (tar ▸ ends))
      · exact silent .packedTape (.inr (tgz ▸ ends))
    · exact .inr ⟨front, written, parts, lower, spelled⟩
  · rintro (rfl | ⟨front, written, parts, lower, capital⟩) format tells
    · cases format with
      | zip => exact tells.2 rfl
      | packedTape => exact absurd tells (by unfold Format.Tells; decide)
    · obtain ⟨ending, member, first, shape⟩ := tells.exists_ending
      exact capital (written_eq member shape parts lower ▸ member)

end SelectionGen.Archive

namespace SelectionGen.CommandLine.Run

open Files Archive

variable {workspace : Workspace} {argument : String} {place : Place}

/-- The progress of a run that has made one more temporary directory. -/
def withTemporary (workspace : Workspace) (progress : Progress) : Progress :=
  { progress with
    tree := progress.tree.addDirectory (workspace.temporary progress.made)
    made := progress.made + 1 }

/-- An archive that cannot be unpacked leaves the directory that was made for it, one whose format is not found takes it
away again. -/
theorem run_unpackSchema (workspace : Workspace) (place : Place) (progress : Progress) :
    (unpackSchema workspace place).run progress =
      let directory := workspace.temporary progress.made
      let opened := withTemporary workspace progress
      match Format.ofName? (place.getLastD "") with
      | none =>
        (.error (.broken (.archive (.unsupportedFormat (Path.ofString (place.getLastD "")).suffix))),
          { opened with tree := opened.tree.remove directory })
      | some format =>
        match Archive.unpack format ((opened.tree.file? place).getD .empty) (renderPlace directory) opened.tree with
        | .error error => (.error (.broken (.archive error)), opened)
        | .ok unpacked =>
          (.ok directory, { opened with tree := unpacked, temporaries := progress.temporaries ++ [directory] }) := by
  unfold unpackSchema makeTemporary
  dsimp only
  cases Format.ofName? (place.getLastD "") with
  | none => rfl
  | some format =>
    dsimp only
    rw [run_bind]
    show (_ : Run Place).run (withTemporary workspace progress) = _
    rw [run_bind]
    show (_ : Run Place).run (withTemporary workspace progress) = _
    rw [run_bind]
    cases Archive.unpack format (((withTemporary workspace progress).tree.file? place).getD .empty)
        (renderPlace (workspace.temporary progress.made)) (withTemporary workspace progress).tree with
    | ok unpacked => rfl
    | error error => rfl

/-- The progress of a run that goes about an archive. -/
def announcing (name : String) (progress : Progress) : Progress :=
  { progress with lines := progress.lines ++ ["Extracting archive " ++ name ++ "..."] }

/-- What is taken for an archive is announced and unpacked, and its path is that of the temporary directory. -/
theorem run_schemaPath (progress : Progress) (verbose : Bool)
    (found : progress.tree.find? workspace.current argument = some place)
    (regular : progress.tree.isRegular place = true) (taken : isArchiveName (place.getLastD "") = true) :
    (schemaPath workspace verbose argument).run progress =
      match (unpackSchema workspace place).run (announcing (place.getLastD "") progress) with
      | (.error ending, after) => (.error ending, after)
      | (.ok directory, after) =>
        (.ok (absolutePath directory),
          { after with
            lines := after.lines ++ if verbose then ["  Extracted to: " ++ renderPlace directory] else [] }) := by
  unfold schemaPath
  rw [run_bind]
  show (_ : Run Path).run progress = _
  simp only [found, regular, taken, Bool.and_self, if_true]
  rw [run_bind]
  show (_ : Run Path).run (announcing (place.getLastD "") progress) = _
  rw [run_bind]
  cases (unpackSchema workspace place).run (announcing (place.getLastD "") progress) with
  | mk result after =>
    cases result with
    | error ending => rfl
    | ok directory =>
      cases verbose with
      | true => rfl
      | false => simp only [Bool.false_eq_true, if_false, List.append_nil]; rfl

/-- Unpacking does not ask for the format again. -/
theorem ne_unsupportedFormat_of_unpack {format : Format} {bytes : ByteArray} {directory : String} {tree : Tree}
    {error : ArchiveError} (failed : Archive.unpack format bytes directory tree = .error error) (ending : String) :
    error ≠ .unsupportedFormat ending := by
  cases format with
  | zip =>
    rw [Archive.unpack] at failed
    cases outcome : unpackZip bytes directory tree <;> rw [outcome] at failed <;> cases failed
    simp
  | packedTape =>
    rw [Archive.unpack] at failed
    cases outcome : unpackTape bytes directory tree <;> rw [outcome] at failed <;> cases failed
    simp

/-- **Which archives are unpacked.** A file that is taken for an archive is unpacked into a new temporary directory as
what its name tells it to be: as a zip file if it ends with `.zip` in lower case and has something in front of that, as
a packed tape if it ends with `.tar.gz` or `.tgz` in lower case; the run goes on with that directory or ends with the
fault of unpacking. It ends for want of a format exactly if the name tells none, which is so for the name `.zip` and for
endings that are not all in lower case. -/
theorem schemaPath_of_archive (progress : Progress) (verbose : Bool)
    (found : progress.tree.find? workspace.current argument = some place)
    (regular : progress.tree.isRegular place = true) (taken : isArchiveName (place.getLastD "") = true)
    (whole : '/' ∉ (place.getLastD "").toList) :
    let name := place.getLastD ""
    let directory := workspace.temporary progress.made
    let opened := withTemporary workspace (announcing name progress)
    (∀ format : Format, format.Tells name →
      (∃ error, Archive.unpack format ((opened.tree.file? place).getD .empty) (renderPlace directory) opened.tree
          = .error error ∧ (∀ ending, error ≠ .unsupportedFormat ending) ∧
        (schemaPath workspace verbose argument).run progress = (.error (.broken (.archive error)), opened)) ∨
      ∃ unpacked, Archive.unpack format ((opened.tree.file? place).getD .empty) (renderPlace directory) opened.tree
          = .ok unpacked ∧
        (schemaPath workspace verbose argument).run progress = (.ok (absolutePath directory),
          { opened with
            lines := opened.lines ++ if verbose then ["  Extracted to: " ++ renderPlace directory] else []
            tree := unpacked
            temporaries := progress.temporaries ++ [directory] })) ∧
    ((∀ format : Format, ¬ format.Tells name) →
      (schemaPath workspace verbose argument).run progress
        = (.error (.broken (.archive (.unsupportedFormat (Path.ofString name).suffix))),
            { opened with tree := opened.tree.remove directory })) ∧
    ((∀ format : Format, ¬ format.Tells name) ↔
      name = ".zip" ∨ ∃ front written, name.toList = front ++ written ∧
        String.ofList (written.map Char.toLower) ∈ endings ∧ String.ofList written ∉ endings) := by
  refine ⟨fun format tells => ?_, fun silent => ?_, not_tells_iff taken⟩
  · rw [run_schemaPath progress verbose found regular taken, run_unpackSchema, (ofName?_eq_some_iff whole).mpr tells]
    cases outcome : Archive.unpack format
        (((withTemporary workspace (announcing (place.getLastD "") progress)).tree.file? place).getD .empty)
        (renderPlace (workspace.temporary progress.made))
        (withTemporary workspace (announcing (place.getLastD "") progress)).tree with
    | error error =>
      refine .inl ⟨error, rfl, ne_unsupportedFormat_of_unpack outcome, ?_⟩
      simp only [show (announcing (place.getLastD "") progress).made = progress.made from rfl, outcome]
    | ok unpacked =>
      refine .inr ⟨unpacked, rfl, ?_⟩
      simp only [show (announcing (place.getLastD "") progress).made = progress.made from rfl, outcome]
      rfl
  · have untold : Format.ofName? (place.getLastD "") = none :=
      Option.eq_none_iff_forall_ne_some.mpr fun format told => silent format ((ofName?_eq_some_iff whole).mp told)
    rw [run_schemaPath progress verbose found regular taken, run_unpackSchema, untold]
    rfl

/-- An empty file of the given name, in the directory that the program runs in. -/
def emptyFile (name : String) : Workspace where
  tree := { files := [([name], .empty)] }
  current := []
  temporary index := ["tmp", String.ofList (List.replicate (index + 1) 'x')]

theorem find?_emptyFile {name : String} (isName : ¬ (name = "" ∨ name = ".") ∧ name ≠ "..")
    (short : ¬ Tree.nameLimit < name.utf8ByteSize) (relative : Text.beginsWith "/" name = false)
    (whole : splitSlashes name = [name]) :
    (emptyFile name).tree.find? (emptyFile name).current name = some [name] := by
  have leads : Tree.Leads (emptyFile name).tree false Tree.linkLimit [] [name] [name] :=
    .enters rfl rfl isName short rfl .here
  have isPresent : (emptyFile name).tree.isPresent [name] = true := by
    simp [emptyFile, Tree.isPresent, Tree.isFile, Tree.file?]
  have fits : ¬ Tree.pathLimit < name.utf8ByteSize := fun long => short (Nat.lt_trans (by decide) long)
  rw [Tree.find?, if_neg fun nothing => isName.1 (.inl nothing), Tree.resolve, if_neg fits, relative, whole]
  show Option.filter _ (Tree.reach _ false Tree.linkLimit [] [name]).toOption = _
  rw [leads.reach]
  simp [Except.toOption, isPresent]

theorem found_emptyFile :
    (emptyFile "a.zip").tree.find? (emptyFile "a.zip").current "a.zip" = some ["a.zip"] :=
  find?_emptyFile (by decide) (by decide) (by decide) (by decide)

/-- A name in lower case tells the format, and what is in the file is no such archive. -/
theorem empty_zip_unpacked :
    Format.zip.Tells "a.zip" ∧
    ∃ after, (schemaPath (emptyFile "a.zip") true "a.zip").run ⟨[], (emptyFile "a.zip").tree, 0, []⟩
      = (.error (.broken (.archive (.zip (.directory .missing)))), after) := by
  have tells : Format.zip.Tells "a.zip" := by unfold Format.Tells; decide
  obtain ⟨unpacks, -, -⟩ :=
    schemaPath_of_archive ⟨[], (emptyFile "a.zip").tree, 0, []⟩ true found_emptyFile (by decide) (by decide) (by decide)
  rcases unpacks .zip tells with ⟨error, failed, -, ran⟩ | ⟨unpacked, done, -⟩
  · obtain rfl : .zip (.directory .missing) = error := Except.error.inj failed
    exact ⟨tells, _, ran⟩
  · cases done

/-- The directory that was made for such a file is left. -/
theorem run_empty_zip (verbose : Bool) :
    (schemaPath (emptyFile "a.zip") verbose "a.zip").run ⟨[], (emptyFile "a.zip").tree, 0, []⟩
      = (.error (.broken (.archive (.zip (.directory .missing)))),
          { lines := ["Extracting archive a.zip..."]
            tree := { files := [(["a.zip"], .empty)], directories := [["tmp", "x"]] }
            made := 1
            temporaries := [] }) := by
  rw [run_schemaPath ⟨[], (emptyFile "a.zip").tree, 0, []⟩ verbose found_emptyFile (by decide) (by decide),
    run_unpackSchema]
  rfl

/-- With capitals in its ending the same file is refused, and so is one with nothing in front of its ending. -/
theorem capitals_refused :
    Archive.isArchiveName "a.TGZ" = true ∧ Format.ofName? "a.TGZ" = none ∧
    (schemaPath (emptyFile "a.TGZ") false "a.TGZ").run ⟨[], (emptyFile "a.TGZ").tree, 0, []⟩
      = (.error (.broken (.archive (.unsupportedFormat ".TGZ"))),
          { lines := ["Extracting archive a.TGZ..."]
            tree := { files := [(["a.TGZ"], .empty)] }
            made := 1
            temporaries := [] }) ∧
    Archive.isArchiveName ".zip" = true ∧ Format.ofName? ".zip" = none := by
  have found : (emptyFile "a.TGZ").tree.find? (emptyFile "a.TGZ").current "a.TGZ" = some ["a.TGZ"] :=
    find?_emptyFile (by decide) (by decide) (by decide) (by decide)
  refine ⟨by decide, by decide, ?_, by decide, by decide⟩
  rw [run_schemaPath ⟨[], (emptyFile "a.TGZ").tree, 0, []⟩ false found (by decide) (by decide), run_unpackSchema]
  rfl

end SelectionGen.CommandLine.Run
