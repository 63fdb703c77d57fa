import SelectionGen.Proofs.AlikeTrees
import SelectionGen.Proofs.Sources

/-! The order in which sources are loaded. Files are collected first, path by path and directory by directory, and then
sorted, so the order in which paths are named or directories list their entries is lost before anything is read. It
shows in one case only: where the system refuses to say what is at a path, collecting ends with the first such path as
named, and nothing is read at all. -/
namespace SelectionGen.Schema

open Sdl Files

variable {tree other : Tree} {current : Place} {path : Path} {paths relisted : List Path} {error : LoadError}

/-! What a path stands for. -/

/-- The system refuses to say what is at a path: it holds a null character, it is too long or a name on the way is, or
the way is barred. A path that leads nowhere is not refused. -/
inductive Refuses (tree : Tree) (current : Place) (path : Path) : LoadError → Prop
  | zero (held : '\x00' ∈ path.render.toList) : Refuses tree current path .zeroInPath
  | long (clean : '\x00' ∉ path.render.toList) (long : Tree.pathLimit < path.render.utf8ByteSize) :
    Refuses tree current path (.reading ⟨.nameTooLong, some path.render⟩)
  | onTheWay {fault : FileFault} (clean : '\x00' ∉ path.render.toList)
    (short : ¬ Tree.pathLimit < path.render.utf8ByteSize)
    (stopped : tree.reach false Tree.linkLimit (if path.isAbsolute then [] else current) path.parts = .error fault)
    (barred : fault = .nameTooLong ∨ fault = .forbidden) :
    Refuses tree current path (.reading ⟨fault, some path.render⟩)

private theorem contains_zero_iff : path.render.contains '\x00' = true ↔ '\x00' ∈ path.render.toList := by
  rw [String.contains_char_eq]
  simp

theorem filesOfPath_eq_error_iff : filesOfPath tree current path = .error error ↔ Refuses tree current path error := by
  constructor
  · intro failed
    simp only [filesOfPath, bind, Except.bind, pure, Except.pure, throw, throwThe, MonadExceptOf.throw] at failed
    by_cases held : path.render.contains '\x00' = true
    · rw [if_pos held] at failed
      cases failed
      exact .zero (contains_zero_iff.mp held)
    · have clean : '\x00' ∉ path.render.toList := fun member => held (contains_zero_iff.mpr member)
      rw [if_neg held] at failed
      by_cases long : Tree.pathLimit < path.render.utf8ByteSize
      · simp only [if_pos long] at failed
        cases failed
        exact .long clean long
      · simp only [if_neg long] at failed
        split at failed
        · rename_i fault stopped
          split_ifs at failed with barred
          cases failed
          exact .onTheWay clean long stopped barred
        · split_ifs at failed
  · intro refuses
    simp only [filesOfPath, bind, Except.bind, pure, Except.pure, throw, throwThe, MonadExceptOf.throw]
    cases refuses with
    | zero held => rw [if_pos (contains_zero_iff.mpr held)]
    | long clean long => simp only [if_neg (mt contains_zero_iff.mp clean), if_pos long]
    | onTheWay clean short stopped barred =>
      simp only [if_neg (mt contains_zero_iff.mp clean), if_neg short, stopped, if_pos barred]

/-- These are the files that a path stands for, in whatever order a walk comes to them. -/
def Enumerates (tree : Tree) (current : Place) (path : Path) (files : List String) : Prop :=
  ∃ found, filesOfPath tree current path = .ok found ∧ files.Perm found

/-- Paths of which none is refused stand for some files each. -/
theorem exists_enumerates (unrefused : ∀ path ∈ paths, ∀ error, ¬ Refuses tree current path error) :
    ∃ listings, List.Forall₂ (Enumerates tree current) paths listings := by
  induction paths with
  | nil => exact ⟨[], .nil⟩
  | cons path rest ih =>
    obtain ⟨here, later⟩ := List.forall_mem_cons.mp unrefused
    obtain ⟨listings, listed⟩ := ih later
    cases found : filesOfPath tree current path with
    | ok files => exact ⟨files :: listings, .cons ⟨files, found, .refl _⟩ listed⟩
    | error error => exact absurd (filesOfPath_eq_error_iff.mp found) (here error)

theorem Refuses.rearranged (rearranged : Tree.Rearranged tree other) (refuses : Refuses tree current path error) :
    Refuses other current path error := by
  cases refuses with
  | zero held => exact .zero held
  | long clean long => exact .long clean long
  | onTheWay clean short stopped barred =>
    exact .onTheWay clean short (by rw [← rearranged.alike.reach, stopped]) barred

/-- A path that leads nowhere stands for no file. -/
theorem filesOfPath_of_stopped {fault : FileFault} (clean : '\x00' ∉ path.render.toList)
    (short : ¬ Tree.pathLimit < path.render.utf8ByteSize)
    (stopped : tree.reach false Tree.linkLimit (if path.isAbsolute then [] else current) path.parts = .error fault)
    (open_ : ¬ (fault = .nameTooLong ∨ fault = .forbidden)) : filesOfPath tree current path = .ok [] := by
  have noZero : ¬ path.render.contains '\x00' = true := mt contains_zero_iff.mp clean
  simp only [filesOfPath, if_neg noZero, if_neg short, stopped, if_neg open_, bind, Except.bind, pure, Except.pure]

/-- In a tree that lists its entries in another order, a path stands for the same files. -/
theorem Enumerates.rearranged {files : List String} (rearranged : Tree.Rearranged tree other)
    (enumerates : Enumerates tree current path files) : Enumerates other current path files := by
  obtain ⟨found, collected, perm⟩ := enumerates
  have known : ∀ error, ¬ Refuses tree current path error := by
    intro error refuses
    rw [filesOfPath_eq_error_iff.mpr refuses] at collected
    cases collected
  have clean : '\x00' ∉ path.render.toList := fun held => known _ (.zero held)
  have short : ¬ Tree.pathLimit < path.render.utf8ByteSize := fun long => known _ (.long clean long)
  cases reached : tree.reach false Tree.linkLimit (if path.isAbsolute then [] else current) path.parts with
  | error fault =>
    have open_ : ¬ (fault = .nameTooLong ∨ fault = .forbidden) := fun barred =>
      known _ (.onTheWay clean short reached barred)
    rw [filesOfPath_of_stopped clean short reached open_] at collected
    rw [rearranged.alike.reach] at reached
    exact ⟨found, (filesOfPath_of_stopped clean short reached open_).trans collected, perm⟩
  | ok place =>
    rw [filesOfPath_of_reach clean short reached] at collected
    obtain rfl := Except.ok.inj collected
    rw [rearranged.alike.reach] at reached
    refine ⟨_, filesOfPath_of_reach clean short reached, perm.trans ?_⟩
    rw [rearranged.alike.isRegular]
    split_ifs
    · exact .refl _
    · exact .refl _
    · exact ((rearranged.walk place).filter _).map _

/-! Collecting. -/

theorem flatten_perm_of_forall₂ {listings founds : List (List String)}
    (each : List.Forall₂ List.Perm listings founds) : listings.flatten.Perm founds.flatten := by
  induction each with
  | nil => exact .refl _
  | cons here _ ih =>
    rw [List.flatten_cons, List.flatten_cons]
    exact here.append ih

/-- However paths are named and walked, the same files are collected, as often as before. -/
theorem collected_perm {listings : List (List String)} (perm : relisted.Perm paths)
    (listed : List.Forall₂ (Enumerates tree current) paths listings) :
    ∃ founds, relisted.mapM (filesOfPath tree current) = .ok founds ∧ founds.flatten.Perm listings.flatten := by
  let filesOf (path : Path) : List String := (filesOfPath tree current path).toOption.getD []
  have each : ∀ path ∈ relisted, filesOfPath tree current path = .ok (filesOf path) := by
    intro path member
    obtain ⟨_, _, found, collected, _⟩ := exists_left_of_mem listed.flip (perm.mem_iff.mp member)
    simp only [filesOf, collected, Except.toOption, Option.getD_some]
  have walked : listings.flatten.Perm (paths.map filesOf).flatten := by
    refine flatten_perm_of_forall₂ (List.forall₂_map_right_iff.mpr (listed.flip.imp ?_))
    rintro files path ⟨found, collected, same⟩
    simpa only [filesOf, collected, Except.toOption, Option.getD_some] using same
  exact ⟨relisted.map filesOf, mapM_of_each each, ((perm.map filesOf).flatten).trans walked.symm⟩

/-- Collecting stops at the first path that is refused. -/
theorem mapM_of_refused (refused : ∃ path ∈ paths, ∃ error, Refuses tree current path error) :
    ∃ before path behind error, paths = before ++ path :: behind ∧
      (∀ earlier ∈ before, ∀ error, ¬ Refuses tree current earlier error) ∧ Refuses tree current path error ∧
      paths.mapM (filesOfPath tree current) = .error error := by
  induction paths with
  | nil => simp at refused
  | cons first rest ih =>
    rw [List.mapM_cons]
    cases collected : filesOfPath tree current first with
    | error error =>
      exact ⟨[], first, rest, error, rfl, by simp, filesOfPath_eq_error_iff.mp collected, rfl⟩
    | ok files =>
      have known : ∀ error, ¬ Refuses tree current first error := by
        intro error refuses
        rw [filesOfPath_eq_error_iff.mpr refuses] at collected
        cases collected
      obtain ⟨path, member, error, refuses⟩ := refused
      have later : path ∈ rest := by
        rcases List.mem_cons.mp member with rfl | later
        · exact absurd refuses (known error)
        · exact later
      obtain ⟨before, path, behind, error, rfl, unrefused, refuses, stopped⟩ := ih ⟨path, later, error, refuses⟩
      exact ⟨first :: before, path, behind, error, rfl, List.forall_mem_cons.mpr ⟨known, unrefused⟩, refuses,
        by rw [stopped]; rfl⟩

/-! Reading. -/

/-- What loading some sources comes to: the definitions of all of them, one source after the other, or the error of the
first that cannot be read. The last source that was looked at is named. -/
inductive LoadsInOrder : List Source → Loading → Prop
  | all {sources : List Source} {documents : List Document}
    (read : List.Forall₂ (fun source document => source.read = .ok document) sources documents) :
    LoadsInOrder sources
      ⟨.ok documents.flatten, (sources.getLast?.map Source.label).getD "", [.sourcesRead sources.length]⟩
  | stopped {before behind : List Source} {source : Source} {error : LoadError}
    (read : ∀ earlier ∈ before, ∃ document, earlier.read = .ok document) (failed : source.read = .error error) :
    LoadsInOrder (before ++ source :: behind) ⟨.error error, source.label, error.journal source.label⟩

/-- Reading goes on as long as sources can be read. -/
theorem readSources_append {before : List Source} {documents : List Document} (label : String) (behind : List Source)
    (read : List.Forall₂ (fun source document => source.read = .ok document) before documents) :
    readSources label (before ++ behind)
      = { readSources ((before.getLast?.map Source.label).getD label) behind with
          outcome := (readSources ((before.getLast?.map Source.label).getD label) behind).outcome.map
            (documents.flatten ++ ·) } := by
  induction read generalizing label with
  | nil =>
    simp only [List.nil_append, List.getLast?_nil, Option.map_none, Option.getD_none, List.flatten_nil]
    cases readSources label behind with
    | mk outcome => cases outcome <;> rfl
  | @cons source document before documents here _ ih =>
    have last : ((source :: before).getLast?.map Source.label).getD label
        = (before.getLast?.map Source.label).getD source.label := by
      cases before with
      | nil => rfl
      | cons next rest => rw [List.getLast?_cons_cons, List.getLast?_cons]; rfl
    rw [List.cons_append, readSources, here, last]
    simp only [ih, List.flatten_cons]
    cases (readSources ((before.getLast?.map Source.label).getD source.label) behind).outcome with
    | error error => rfl
    | ok rest => simp [Except.map, List.append_assoc]

/-- Sources can all be read, or there is a first one that cannot. -/
theorem read_or_stopped (found : List Source) :
    (∃ documents, List.Forall₂ (fun source document => source.read = .ok document) found documents) ∨
    ∃ before source behind error documents, found = before ++ source :: behind ∧
      List.Forall₂ (fun source document => source.read = .ok document) before documents ∧
        source.read = .error error := by
  induction found with
  | nil => exact .inl ⟨[], .nil⟩
  | cons source rest ih =>
    cases here : source.read with
    | error error => exact .inr ⟨[], source, rest, error, [], rfl, .nil, here⟩
    | ok document =>
      rcases ih with ⟨documents, all⟩ | ⟨before, later, behind, error, documents, rfl, read, failed⟩
      · exact .inl ⟨document :: documents, .cons here all⟩
      · exact .inr ⟨source :: before, later, behind, error, document :: documents, rfl, .cons here read, failed⟩

theorem loadsInOrder {found : List Source} {texts : List String}
    (collected : sources tree current paths texts = .ok found) :
    LoadsInOrder found (load tree current paths texts) := by
  rw [load, collected]
  rcases read_or_stopped found with ⟨documents, read⟩ | ⟨before, source, behind, error, documents, rfl, read, failed⟩
  · have loaded := readSources_append "" [] read
    rw [List.append_nil, readSources] at loaded
    simp only [loaded, Except.map, List.append_nil, List.nil_append]
    exact .all read
  · have loaded := readSources_append "" (source :: behind) read
    rw [readSources, failed] at loaded
    simp only [loaded, Except.map]
    refine .stopped (fun earlier member => ?_) failed
    obtain ⟨document, _, held⟩ := exists_left_of_mem read.flip member
    exact ⟨document, held⟩

/-- **Loading does not depend on the order in which paths are listed.** Let a tree list its entries in another order and
let paths be listed in another order. If none of the paths is refused, then each stands for some files, these are sorted
by the code points of their paths, one that is collected more than once staying as often, the texts come behind in their
own order, and loading gives all definitions in that order or stops at the first source that cannot be read, which it
names, in the one tree as in the other. If some path is refused, then nothing is read, no source is named, and the error
is that of the first such path as listed. -/
theorem load_of_relisted (rearranged : Tree.Rearranged tree other) (perm : relisted.Perm paths) (texts : List String) :
    ((∀ path ∈ paths, ∀ error, ¬ Refuses tree current path error) →
      (∃ listings, List.Forall₂ (Enumerates tree current) paths listings) ∧
      ∀ listings, List.Forall₂ (Enumerates tree current) paths listings →
        ∃ files : List String, files.Perm listings.flatten ∧ files.Pairwise (· ≤ ·) ∧
          LoadsInOrder (files.map (fun path => .file path (tree.read current path))
            ++ texts.mapIdx fun index text => .inline index text) (load tree current paths texts) ∧
          load other current relisted texts = load tree current paths texts) ∧
    ((∃ path ∈ paths, ∃ error, Refuses tree current path error) →
      ∃ before path behind error, relisted = before ++ path :: behind ∧
        (∀ earlier ∈ before, ∀ error, ¬ Refuses tree current earlier error) ∧ Refuses tree current path error ∧
        load other current relisted texts = ⟨.error error, "", []⟩) := by
  refine ⟨fun unrefused => ⟨?_, fun listings listed => ?_⟩, ?_⟩
  · exact exists_enumerates unrefused
  · have listedToo : List.Forall₂ (Enumerates other current) paths listings :=
      listed.imp fun _ _ enumerates => enumerates.rearranged rearranged
    obtain ⟨founds, collected, same⟩ := collected_perm (.refl paths) listed
    obtain ⟨foundsToo, collectedToo, sameToo⟩ := collected_perm perm listedToo
    have inTree := sources_eq tree current paths texts
    have inOther := sources_eq other current relisted texts
    rw [collected, Except.map] at inTree
    rw [collectedToo, Except.map, sourcesOf_perm texts (sameToo.trans same.symm)] at inOther
    have alike : sourcesOf other current texts founds.flatten = sourcesOf tree current texts founds.flatten := by
      simp only [sourcesOf, ← rearranged.read]
    rw [alike] at inOther
    exact ⟨inOrder founds.flatten, (inOrder_perm _).trans same, inOrder_pairwise _, loadsInOrder inTree,
      by rw [load, load, inTree, inOther]⟩
  · rintro ⟨path, member, error, refuses⟩
    have refused : ∃ path ∈ relisted, ∃ error, Refuses other current path error :=
      ⟨path, perm.mem_iff.mpr member, error, refuses.rearranged rearranged⟩
    obtain ⟨before, first, behind, error, parts, unrefused, refusesFirst, stopped⟩ := mapM_of_refused refused
    have back := rearranged.symm
    refine ⟨before, first, behind, error, parts, ?_, refusesFirst.rearranged back, ?_⟩
    · exact fun earlier known error refuses => unrefused earlier known error (refuses.rearranged rearranged)
    · rw [load, sources_eq, stopped]
      rfl

/-! The directory of novels, listed from its end, and an input with names that are too long. -/

section Instances

open Projection.Library

/-- The same two files, listed the other way around. -/
def shelvesBackwards : Tree where
  files := shelves.files.reverse

theorem rearranged_shelves : Tree.Rearranged shelves shelvesBackwards :=
  .of_distinct shelves.files.reverse_perm.symm (.refl _) (.refl _) (.refl _) (by decide) (by decide) (by decide)

theorem not_refuses_of_files {files : List String} (found : filesOfPath tree current path = .ok files) :
    ¬ Refuses tree current path error := by
  intro refuses
  rw [filesOfPath_eq_error_iff.mpr refuses] at found
  cases found

/-- The file that is named besides its directory is read twice in either order, and a text comes behind. -/
theorem load_of_shelvesBackwards :
    Tree.Rearranged shelves shelvesBackwards ∧ [direct, shelf].Perm [shelf, direct] ∧
    (∀ path ∈ [shelf, direct], ∀ error, ¬ Refuses shelves [] path error) ∧
    load shelvesBackwards [] [direct, shelf] [sellersText] = load shelves [] [shelf, direct] [sellersText] ∧
    (load shelves [] [shelf, direct] [sellersText]).outcome = .ok (novels ++ (sellers ++ (sellers ++ sellers))) := by
  have unrefused : ∀ path ∈ [shelf, direct], ∀ error, ¬ Refuses shelves [] path error := by
    intro path member error
    rcases List.mem_pair.mp member with rfl | rfl
    · exact not_refuses_of_files files_of_shelf
    · exact not_refuses_of_files files_of_direct
  have swapped : [direct, shelf].Perm [shelf, direct] := .swap ..
  obtain ⟨⟨listings, listed⟩, loaded⟩ := (load_of_relisted rearranged_shelves swapped [sellersText]).1 unrefused
  obtain ⟨_, _, _, _, same⟩ := loaded listings listed
  refine ⟨rearranged_shelves, swapped, unrefused, same, ?_⟩
  have collected : [shelf, direct].mapM (filesOfPath shelves [])
      = .ok [["s/a.graphqls", "s/b.graphqls"], ["s/b.graphqls"]] := by
    rw [List.mapM_cons, files_of_shelf, List.mapM_cons, files_of_direct]
    rfl
  have ordered : inOrder ["s/a.graphqls", "s/b.graphqls", "s/b.graphqls"]
      = ["s/a.graphqls", "s/b.graphqls", "s/b.graphqls"] := inOrder_eq (by decide) (.refl _)
  have inline : (Source.inline 0 sellersText).read = .ok sellers := by
    simp only [Source.read, Source.text, bind, Except.bind, read_sellersText, Except.mapError]
  rw [load_outcome, sources_eq, collected]
  show gather (sourcesOf shelves [] [sellersText] ["s/a.graphqls", "s/b.graphqls", "s/b.graphqls"]) = _
  rw [sourcesOf, ordered]
  show gather [.file "s/a.graphqls" _, .file "s/b.graphqls" _, .file "s/b.graphqls" _, .inline 0 sellersText] = _
  rw [gather_cons, read_novels, gather_cons, read_sellers, gather_cons, read_sellers, gather_cons, inline]
  rfl

/-- A file that cannot be parsed in a directory `d`. -/
def unparsed : Tree where
  files := [(["d", "x.graphql"], "type \x7b".toUTF8)]

/-- A name of one byte more than there may be. -/
def tooLong (letter : Char) : Path where
  parts := [String.ofList (List.replicate (Tree.nameLimit + 1) letter)]

theorem render_tooLong (letter : Char) :
    (tooLong letter).render = String.ofList (List.replicate (Tree.nameLimit + 1) letter) := by
  simp [tooLong, Path.render]

theorem utf8ByteSize_replicate (count : Nat) (letter : Char) :
    (String.ofList (List.replicate count letter)).utf8ByteSize = count * letter.utf8Size := by
  induction count with
  | zero => simp
  | succ count ih =>
    rw [List.replicate_succ', String.ofList_append, String.utf8ByteSize_append, ih, Nat.succ_mul]
    simp

theorem refuses_tooLong {letter : Char} (plain : letter = 'y' ∨ letter = 'z') :
    Refuses unparsed [] (tooLong letter) (.reading ⟨.nameTooLong, some (tooLong letter).render⟩) := by
  have oneByte : letter.utf8Size = 1 := by rcases plain with rfl | rfl <;> decide
  have noNull : letter ≠ '\x00' := by rcases plain with rfl | rfl <;> decide
  have size : (tooLong letter).render.utf8ByteSize = Tree.nameLimit + 1 := by
    rw [render_tooLong, utf8ByteSize_replicate, oneByte, Nat.mul_one]
  refine .onTheWay ?_ ?_ ?_ (.inl rfl)
  · rw [render_tooLong, String.toList_ofList]
    exact fun member => noNull (List.eq_of_mem_replicate member).symm
  · rw [size]
    decide
  · show unparsed.reach false Tree.linkLimit [] (tooLong letter).parts = .error .nameTooLong
    rw [tooLong, Tree.reach.eq_def]
    rcases plain with rfl | rfl <;> decide +kernel

theorem files_of_unparsed : filesOfPath unparsed [] { parts := ["d"] } = .ok ["d/x.graphql"] := by
  have reached : unparsed.reach false Tree.linkLimit [] ["d"] = .ok ["d"] := by
    rw [reach_name rfl rfl rfl (by decide) (by decide) (by decide), Tree.reach]
    rfl
  rw [filesOfPath_of_reach (by decide) (by decide) reached]
  decide

theorem load_of_refused {letter : Char} {rest : List Path} (plain : letter = 'y' ∨ letter = 'z') :
    load unparsed [] (tooLong letter :: rest) []
      = ⟨.error (.reading ⟨.nameTooLong, some (tooLong letter).render⟩), "", []⟩ := by
  rw [load, sources_eq, List.mapM_cons, filesOfPath_eq_error_iff.mpr (refuses_tooLong plain)]
  rfl

/-- A name that is too long is found before any file is read, and of two the one that is listed first. -/
theorem load_of_tooLong :
    filesOfPath unparsed [] { parts := ["d"] } = .ok ["d/x.graphql"] ∧
    ¬ LoadsInOrder [.file "d/x.graphql" (unparsed.read [] "d/x.graphql")]
      (load unparsed [] [{ parts := ["d"] }, tooLong 'z'] []) ∧
    [tooLong 'y', tooLong 'z'].Perm [tooLong 'z', tooLong 'y'] ∧
    load unparsed [] [tooLong 'y', tooLong 'z'] [] ≠ load unparsed [] [tooLong 'z', tooLong 'y'] [] := by
  have loaded : load unparsed [] [{ parts := ["d"] }, tooLong 'z'] []
      = ⟨.error (.reading ⟨.nameTooLong, some (tooLong 'z').render⟩), "", []⟩ := by
    rw [load, sources_eq, List.mapM_cons, files_of_unparsed, List.mapM_cons,
      filesOfPath_eq_error_iff.mpr (refuses_tooLong (.inr rfl))]
    rfl
  refine ⟨files_of_unparsed, fun inOrder => ?_, .swap .., fun same => ?_⟩
  · generalize held : [Source.file "d/x.graphql" (unparsed.read [] "d/x.graphql")] = found at inOrder
    rw [loaded] at inOrder
    generalize named : "" = label at inOrder
    cases inOrder with
    | @stopped before behind source =>
      have only : source ∈ [Source.file "d/x.graphql" (unparsed.read [] "d/x.graphql")] := by simp [held]
      obtain rfl := List.mem_singleton.mp only
      exact absurd named (by decide)
  · rw [load_of_refused (.inl rfl), load_of_refused (.inr rfl)] at same
    have named : (tooLong 'y').render = (tooLong 'z').render := by simpa using same
    rw [render_tooLong, render_tooLong, String.ofList_inj, List.replicate_succ, List.replicate_succ] at named
    exact absurd (List.cons.inj named).1 (by decide)

end Instances

end SelectionGen.Schema
