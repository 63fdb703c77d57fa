import SelectionGen.Proofs.Repetition

/-! Which files are read, and what comes of naming one again. Files are read in the order of their paths, so a
path that is named once more puts its files in among the others, and the definitions of a file that was
read already come again. They come behind their originals if the file is read again under no earlier
path, and then nothing that is generated changes. -/
namespace SelectionGen.Schema

open Sdl Files

variable {tree : Tree} {current : Place} {files others : List String} {file listed : String}

theorem inOrder_pairwise (files : List String) : (inOrder files).Pairwise (· ≤ ·) := by
  have sorted : (inOrder files).Pairwise fun a b => decide (a ≤ b) = true :=
    List.pairwise_mergeSort (fun _ _ _ => by simpa using String.le_trans)
      (fun a b => by simpa using String.le_total a b) files
  simpa using sorted

theorem inOrder_perm (files : List String) : (inOrder files).Perm files := List.mergeSort_perm ..

/-- There is one way to put files in order. -/
theorem inOrder_eq (sorted : others.Pairwise (· ≤ ·)) (perm : others.Perm files) : inOrder files = others :=
  ((inOrder_perm files).trans perm.symm).eq_of_pairwise (fun _ _ _ _ => String.le_antisymm)
    (inOrder_pairwise files) sorted

theorem inOrder_eq_of_perm (perm : files.Perm others) : inOrder files = inOrder others :=
  inOrder_eq (inOrder_pairwise others) ((inOrder_perm others).trans perm.symm)

/-- One more file comes behind all that do not sort behind it. -/
theorem inOrder_cons (member : listed ∈ files) (before : listed ≤ file) :
    ∃ front back, inOrder files = front ++ back ∧ inOrder (file :: files) = front ++ file :: back ∧
      listed ∈ front := by
  let front := (inOrder files).filter fun other => decide (other ≤ file)
  let back := (inOrder files).filter fun other => !decide (other ≤ file)
  have upTo : ∀ other ∈ front, other ≤ file := by simp [front]
  have beyond : ∀ other ∈ back, file ≤ other := by
    intro other inBack
    have unordered : ¬ other ≤ file := by simpa using (List.mem_filter.mp inBack).2
    exact (String.le_total other file).resolve_left unordered
  have parts : (front ++ back).Perm files :=
    (List.filter_append_perm _ (inOrder files)).trans (inOrder_perm files)
  have sortedFront : front.Pairwise (· ≤ ·) := (inOrder_pairwise files).filter _
  have sortedBack : back.Pairwise (· ≤ ·) := (inOrder_pairwise files).filter _
  have across : ∀ first ∈ front, ∀ last ∈ file :: back, first ≤ last := by
    intro first inFront last behind
    rcases List.mem_cons.mp behind with rfl | inBack
    · exact upTo first inFront
    · exact String.le_trans (upTo first inFront) (beyond last inBack)
  have sortedBehind : (file :: back).Pairwise (· ≤ ·) := List.pairwise_cons.mpr ⟨beyond, sortedBack⟩
  refine ⟨front, back, inOrder_eq ?_ parts, inOrder_eq ?_ ?_, ?_⟩
  · exact List.pairwise_append.mpr ⟨sortedFront, sortedBack, fun first inFront last inBack =>
      across first inFront last (List.mem_cons_of_mem file inBack)⟩
  · exact List.pairwise_append.mpr ⟨sortedFront, sortedBehind, across⟩
  · exact List.perm_middle.trans (parts.cons file)
  · simpa [front, (inOrder_perm files).mem_iff, before] using member

/-! Reading. -/

/-- The definitions of sources, one source after the other. -/
def gather (found : List Source) : Except LoadError Document :=
  (found.mapM Source.read).map List.flatten

theorem readSources_outcome (label : String) (found : List Source) :
    (readSources label found).outcome = gather found := by
  induction found generalizing label with
  | nil => rfl
  | cons source rest ih =>
    rw [readSources, gather, List.mapM_cons]
    cases source.read with
    | error error => rfl
    | ok document =>
      have behind := ih source.label
      rw [gather] at behind
      simp only [behind]
      cases rest.mapM Source.read <;> rfl

theorem load_outcome (tree : Tree) (current : Place) (paths : List Path) (texts : List String) :
    (load tree current paths texts).outcome = (sources tree current paths texts).bind gather := by
  rw [load]
  cases sources tree current paths texts with
  | error error => rfl
  | ok found =>
    have outcome := readSources_outcome "" found
    simp only [Except.bind]
    rw [← outcome]
    cases reading : (readSources "" found).outcome <;> simp only [reading]

/-- Outcomes of loading that no run tells apart: documents of which one has copies behind their originals, or
faults. -/
inductive LoadedAlike : Except LoadError Document → Except LoadError Document → Prop
  | failed {error other : LoadError} : LoadedAlike (.error error) (.error other)
  | loaded {document other : Document} (repeats : Repeats document other) :
      LoadedAlike (.ok document) (.ok other)

theorem LoadedAlike.refl (outcome : Except LoadError Document) : LoadedAlike outcome outcome := by
  cases outcome with
  | error => exact .failed
  | ok => exact .loaded .same

theorem LoadedAlike.trans {first second third : Except LoadError Document}
    (alike : LoadedAlike first second) (alikeToo : LoadedAlike second third) : LoadedAlike first third := by
  cases alike with
  | failed =>
    cases alikeToo
    exact .failed
  | loaded repeats =>
    cases alikeToo with
    | loaded repeatsToo => exact .loaded (repeats.trans repeatsToo)

theorem gather_append (front back : List Source) :
    gather (front ++ back)
      = (gather front).bind fun first => (gather back).map fun second => first ++ second := by
  rw [gather, gather, gather, List.mapM_append]
  cases front.mapM Source.read with
  | error error => rfl
  | ok first =>
    cases back.mapM Source.read with
    | error error => rfl
    | ok second => exact congrArg Except.ok List.flatten_append

theorem gather_cons (source : Source) (rest : List Source) :
    gather (source :: rest)
      = source.read.bind fun document => (gather rest).map fun behind => document ++ behind := by
  rw [gather, gather, List.mapM_cons]
  cases source.read with
  | error error => rfl
  | ok document => cases rest.mapM Source.read <;> rfl

/-- Where all sources can be read each can, and what it holds is among what all hold. -/
theorem read_of_gather {found : List Source} {source : Source} {document : Document}
    (gathered : gather found = .ok document) (member : source ∈ found) :
    ∃ part, source.read = .ok part ∧ part ⊆ document := by
  induction found generalizing document with
  | nil => cases member
  | cons first rest ih =>
    rw [gather_cons] at gathered
    cases readFirst : first.read with
    | error error =>
      rw [readFirst] at gathered
      cases gathered
    | ok head =>
      cases behind : gather rest with
      | error error =>
        rw [readFirst, behind] at gathered
        cases gathered
      | ok tail =>
        rw [readFirst, behind] at gathered
        obtain rfl : head ++ tail = document := Except.ok.inj gathered
        rcases List.mem_cons.mp member with rfl | later
        · exact ⟨head, readFirst, List.subset_append_left head tail⟩
        · obtain ⟨part, read, among⟩ := ih behind later
          exact ⟨part, read, List.subset_append_of_subset_right head among⟩

/-- A source that holds what an earlier one holds adds copies. -/
theorem gather_again {front back : List Source} {source original : Source} (member : original ∈ front)
    (same : ∀ document, original.read = .ok document → source.read = .ok document) :
    LoadedAlike (gather (front ++ back)) (gather (front ++ source :: back)) := by
  rw [gather_append, gather_append, gather_cons]
  cases before : gather front with
  | error error => exact .failed
  | ok first =>
    obtain ⟨part, read, among⟩ := read_of_gather before member
    rw [same part read]
    cases gather back with
    | error error => exact .failed
    | ok second => exact .loaded (.block first second among)

private theorem leadShape_ascii {byte : UInt8} (ascii : byte < 0x80) :
    Text.Utf8.leadShape? byte = some (0, 0, 0) := by
  simp only [Text.Utf8.leadShape?, ascii, if_true]

private theorem decodeFrom_cons {byte : UInt8} {rest : List UInt8} {start : Nat} {text : List Char}
    (ascii : byte < 0x80) (behind : Text.Utf8.decodeFrom rest (start + 1) = .ok text) :
    Text.Utf8.decodeFrom (byte :: rest) start = .ok (Char.ofNat byte.toNat :: text) := by
  rw [Text.Utf8.decodeFrom.eq_def]
  simp only [leadShape_ascii ascii]
  have alone : Text.Utf8.continuation 0 0 0 rest = .ok () := by
    unfold Text.Utf8.continuation
    rfl
  have code : Text.Utf8.codePoint byte 0 rest = byte.toNat := rfl
  simp only [alone, code, List.drop_zero, Nat.add_zero, behind]
  rfl

/-- Bytes below 128 stand for one character each. -/
theorem decodeFrom_ascii {bytes : List UInt8} (ascii : ∀ byte ∈ bytes, byte < 0x80) (start : Nat) :
    Text.Utf8.decodeFrom bytes start = .ok (bytes.map fun byte => Char.ofNat byte.toNat) := by
  induction bytes generalizing start with
  | nil =>
    rw [Text.Utf8.decodeFrom.eq_def]
    rfl
  | cons byte rest ih =>
    have behind := ih (fun other later => ascii other (List.mem_cons_of_mem byte later)) (start + 1)
    exact decodeFrom_cons (ascii byte List.mem_cons_self) behind

/-- A file of such bytes holds what their text defines. -/
theorem read_ascii {path text : String} {bytes : ByteArray} {document : Document}
    (ascii : (bytes.data.toList.all fun byte => decide (byte < 0x80)) = true)
    (spells : Text.unifyLineEnds (bytes.data.toList.map fun byte => Char.ofNat byte.toNat) = text.toList)
    (read : Document.read text = .ok document) : (Source.file path (.ok bytes)).read = .ok document := by
  have below : ∀ byte ∈ bytes.data.toList, byte < 0x80 :=
    fun byte member => of_decide_eq_true (List.all_eq_true.mp ascii byte member)
  have decoded : Text.Utf8.decode bytes
      = .ok (String.ofList (bytes.data.toList.map fun byte => Char.ofNat byte.toNat)) := by
    rw [Text.Utf8.decode, decodeFrom_ascii below]
    rfl
  have same : (Source.file path (.ok bytes)).text = .ok text := by
    simp [Source.text, atPath, Except.mapError, bind, Except.bind, pure, Except.pure, decoded, spells]
  rw [Source.read, same]
  simp [bind, Except.bind, read, Except.mapError]

/-! Where paths lead in a tree. -/

section Reach

variable {place : Place} {name : String} {rest : List String}

theorem searches_of_unlimited (limits : tree.limits = []) (place : Place) :
    (tree.access place).searches = true := by
  rw [Tree.access, limits]
  rfl

/-- A name leads on to the place of that name where nothing is a link and nothing is limited. -/
theorem reach_name (links : tree.links = []) (limits : tree.limits = [])
    (isDirectory : tree.isDirectory place = true) (plain : ¬ (name = "" ∨ name = ".")) (down : name ≠ "..")
    (short : ¬ Tree.nameLimit < name.utf8ByteSize) :
    tree.reach false Tree.linkLimit place (name :: rest)
      = tree.reach false Tree.linkLimit (place ++ [name]) rest := by
  have unlinked : tree.links.lookup (place ++ [name]) = none := by rw [links]; rfl
  rw [Tree.reach, isDirectory, searches_of_unlimited limits, Bool.not_true, if_neg Bool.false_ne_true,
    if_neg Bool.false_ne_true, if_neg plain, if_neg down, if_neg short]
  exact unlinked

/-- A double dot leads back. -/
theorem reach_back (links : tree.links = []) (limits : tree.limits = [])
    (isDirectory : tree.isDirectory place = true) :
    tree.reach false Tree.linkLimit place (".." :: rest)
      = tree.reach false Tree.linkLimit place.dropLast rest := by
  have unlinked : tree.links.lookup (place ++ [".."]) = none := by rw [links]; rfl
  rw [Tree.reach, isDirectory, searches_of_unlimited limits, Bool.not_true, if_neg Bool.false_ne_true,
    if_neg Bool.false_ne_true, if_neg (by decide), if_pos rfl]
  exact unlinked

/-- A path that leads somewhere stands for the file there, or for those below. -/
theorem filesOfPath_of_reach {path : Path} (clean : '\x00' ∉ path.render.toList)
    (short : ¬ Tree.pathLimit < path.render.utf8ByteSize)
    (reached : tree.reach false Tree.linkLimit (if path.isAbsolute then [] else current) path.parts = .ok place) :
    filesOfPath tree current path = .ok (
      if tree.isRegular place then (if isSchemaName path.name then [path.render] else [])
      else ((tree.walk place).filter fun below => isSchemaName (below.getLastD "")).map fun below =>
        join path.render ("/".intercalate below)) := by
  have noZero : ¬ path.render.contains '\x00' = true := by
    rw [String.contains_char_eq]
    exact fun held => clean (of_decide_eq_true held)
  simp only [filesOfPath, if_neg noZero, if_neg short, reached, bind, Except.bind, pure, Except.pure]
  split <;> rfl

/-- A relative path leads where its parts lead. -/
theorem resolve_relative {text : String} (parts : List String) (short : ¬ Tree.pathLimit < text.utf8ByteSize)
    (relative : Text.beginsWith "/" text = false) (split : splitSlashes text = parts) :
    tree.resolve current text = tree.reach false Tree.linkLimit current parts := by
  rw [Tree.resolve, split, relative, if_neg short]
  rfl

end Reach

/-! Files named again. -/

/-- The sources that files and texts are. -/
def sourcesOf (tree : Tree) (current : Place) (texts : List String) (files : List String) : List Source :=
  (inOrder files).map (fun path => .file path (tree.read current path))
    ++ texts.mapIdx fun index text => .inline index text

theorem sources_eq (tree : Tree) (current : Place) (paths : List Path) (texts : List String) :
    sources tree current paths texts
      = (paths.mapM (filesOfPath tree current)).map fun found =>
          sourcesOf tree current texts found.flatten := by
  rw [sources]
  cases paths.mapM (filesOfPath tree current) <;> rfl

/-- Wherever one path leads as it is written, there the other one leads. -/
def LeadsAlong (tree : Tree) (current : Place) (listed file : String) : Prop :=
  ∀ place, tree.resolve current listed = .ok place → tree.resolve current file = .ok place

/-- A file holds the same definitions under every path that leads to it. -/
theorem read_of_leadsAlong {document : Document} (along : LeadsAlong tree current listed file)
    (read : (Source.file listed (tree.read current listed)).read = .ok document) :
    (Source.file file (tree.read current file)).read = .ok document := by
  cases reached : tree.resolve current listed with
  | error fault =>
    rw [Tree.read, reached] at read
    cases read
  | ok place =>
    rw [Tree.read, reached] at read
    rw [Tree.read, along place reached]
    simp only [Except.bind] at read ⊢
    cases held : tree.contentAt place with
    | error fault =>
      rw [held] at read
      cases read
    | ok content =>
      rw [held] at read
      exact read

/-- A path that one of some files can be read by, and that does not sort behind the given one. -/
def ReadBefore (tree : Tree) (current : Place) (files : List String) (file : String) : Prop :=
  ∃ listed ∈ files, listed ≤ file ∧ LeadsAlong tree current listed file

/-- One more file that is read before adds copies of what it holds. -/
theorem gather_file (texts : List String) (before : ReadBefore tree current files file) :
    LoadedAlike (gather (sourcesOf tree current texts files))
      (gather (sourcesOf tree current texts (file :: files))) := by
  obtain ⟨listed, member, ordered, along⟩ := before
  obtain ⟨front, back, without, more, inFront⟩ := inOrder_cons member ordered
  rw [sourcesOf, sourcesOf, without, more, List.map_append, List.map_append, List.append_assoc,
    List.append_assoc]
  exact gather_again (List.mem_map_of_mem inFront) fun document => read_of_leadsAlong along

theorem gather_files (texts : List String) {added : List String}
    (before : ∀ file ∈ added, ReadBefore tree current files file) :
    LoadedAlike (gather (sourcesOf tree current texts files))
      (gather (sourcesOf tree current texts (added ++ files))) := by
  induction added with
  | nil => exact .refl _
  | cons file rest ih =>
    obtain ⟨listed, member, ordered, along⟩ := before file List.mem_cons_self
    have beforeStill : ReadBefore tree current (rest ++ files) file :=
      ⟨listed, List.mem_append_right rest member, ordered, along⟩
    exact (ih fun other later => before other (List.mem_cons_of_mem _ later)).trans
      (gather_file texts beforeStill)

theorem sourcesOf_perm (texts : List String) (perm : files.Perm others) :
    sourcesOf tree current texts files = sourcesOf tree current texts others := by
  rw [sourcesOf, sourcesOf, inOrder_eq_of_perm perm]

/-- A path that names files which other paths name already: one of these paths once more, or a schema file that
a walk through one of them comes to as well, under a path that does not sort behind. -/
inductive NamesAgain (tree : Tree) (current : Place) (paths : List Path) (path : Path) : Prop
  | path (member : path ∈ paths)
  | file {directory : Path} {file walked : String} {below : List String}
      (standsFor : filesOfPath tree current path = .ok [file]) (member : directory ∈ paths)
      (holds : filesOfPath tree current directory = .ok below) (reached : walked ∈ below)
      (along : LeadsAlong tree current walked file) (ordered : walked ≤ file)

theorem NamesAgain.readBefore {paths : List Path} {path : Path} {added : List String}
    {found : List (List String)} (again : NamesAgain tree current paths path)
    (standsFor : filesOfPath tree current path = .ok added)
    (listed : paths.mapM (filesOfPath tree current) = .ok found) :
    ∀ file ∈ added, ReadBefore tree current found.flatten file := by
  have held : ∀ directory ∈ paths, ∀ below, filesOfPath tree current directory = .ok below →
      ∀ walked ∈ below, walked ∈ found.flatten := by
    intro directory member below holds walked reached
    obtain ⟨result, inFound, same⟩ := exists_left_of_mem (each_of_mapM listed).flip member
    rw [holds] at same
    exact List.mem_flatten.mpr ⟨result, inFound, Except.ok.inj same ▸ reached⟩
  intro file member
  cases again with
  | path inPaths =>
    exact ⟨file, held path inPaths added standsFor file member, String.le_refl file, fun _ leads => leads⟩
  | @file directory only walked below alone inPaths holds reached along ordered =>
    rw [alone] at standsFor
    obtain rfl : [only] = added := Except.ok.inj standsFor
    obtain rfl := List.mem_singleton.mp member
    exact ⟨walked, held directory inPaths below holds walked reached, ordered, along⟩

/-- Where one of some paths cannot be looked at, none of them is. -/
theorem mapM_error {paths : List Path} {path : Path} {error : LoadError} (member : path ∈ paths)
    (barred : filesOfPath tree current path = .error error) :
    ∃ error, paths.mapM (filesOfPath tree current) = .error error := by
  cases listed : paths.mapM (filesOfPath tree current) with
  | error error => exact ⟨error, rfl⟩
  | ok found =>
    obtain ⟨result, _, same⟩ := exists_left_of_mem (each_of_mapM listed).flip member
    rw [barred] at same
    cases same

/-- Naming files again loads what was loaded before, perhaps with copies. -/
theorem load_again {front back : List Path} {path : Path} (texts : List String)
    (again : NamesAgain tree current (front ++ back) path) :
    LoadedAlike (load tree current (front ++ back) texts).outcome
      (load tree current (front ++ path :: back) texts).outcome := by
  rw [load_outcome, load_outcome, sources_eq, sources_eq]
  cases standsFor : filesOfPath tree current path with
  | error error =>
    have inMore : path ∈ front ++ path :: back := by simp
    have inPaths : path ∈ front ++ back := by
      cases again with
      | path member => exact member
      | file alone =>
        rw [standsFor] at alone
        cases alone
    obtain ⟨first, failed⟩ := mapM_error inPaths standsFor
    obtain ⟨second, failedToo⟩ := mapM_error inMore standsFor
    rw [failed, failedToo]
    exact .failed
  | ok added =>
    have before : ∀ found, (front ++ back).mapM (filesOfPath tree current) = .ok found →
        ∀ file ∈ added, ReadBefore tree current found.flatten file :=
      fun _ listed => again.readBefore standsFor listed
    rw [List.mapM_append] at before
    rw [List.mapM_append, List.mapM_append, List.mapM_cons, standsFor]
    cases inFront : front.mapM (filesOfPath tree current) with
    | error error => exact .failed
    | ok first =>
      cases inBack : back.mapM (filesOfPath tree current) with
      | error error => exact .failed
      | ok last =>
        have known := before (first ++ last) (by rw [inFront, inBack]; rfl)
        have perm : (added ++ (first ++ last).flatten).Perm (first ++ added :: last).flatten := by
          simp only [List.flatten_append, List.flatten_cons]
          exact List.perm_append_comm_assoc ..
        have alike := gather_files texts known
        rw [sourcesOf_perm texts perm] at alike
        exact alike

end SelectionGen.Schema

namespace SelectionGen

/-- The settings with other paths to read schemas from. -/
def Settings.reading (settings : Settings) (paths : List Files.Path) : Settings :=
  { settings with schemaPaths := paths }

namespace Generation

open Sdl Schema Files

/-- **Definitions that come again change nothing.** Put copies of entries of a document behind their originals, of
whatever kind they are: each run gives the same result, or the same clash, under any settings and
filters. So it does no harm to name a path of a schema again, or a file that is read in the course of a
directory anyway, if it is not named by a path that sorts before the one it is found under there. -/
theorem outcome_of_repeats :
    (∀ document other, Repeats document other → ∀ (settings : Settings) (filters : List TypeFilter),
      (ofGivenDocument settings filters document).outcome
        = (ofGivenDocument settings filters other).outcome) ∧
    ∀ tree current front back path, NamesAgain tree current (front ++ back) path →
      ∀ (settings : Settings) (filters : List TypeFilter),
        (ofSettings (settings.reading (front ++ back)) filters tree current).outcome
            = (ofSettings (settings.reading (front ++ path :: back)) filters tree current).outcome ∨
          ∃ error other,
            (ofSettings (settings.reading (front ++ back)) filters tree current).outcome
              = .error (.load error) ∧
            (ofSettings (settings.reading (front ++ path :: back)) filters tree current).outcome
              = .error (.load other) := by
  refine ⟨fun _ _ repeats settings filters => outcome_of_copies repeats settings filters _ _, ?_⟩
  intro tree current front back path again settings filters
  by_cases wanted : settings.generatesClient = true
  · have alike := load_again settings.schemas again
    generalize loaded : (load tree current (front ++ back) settings.schemas).outcome = outcome at alike
    generalize loadedMore : (load tree current (front ++ path :: back) settings.schemas).outcome = more at alike
    cases alike with
    | failed => exact .inr ⟨_, _, run_of_failed wanted loaded, run_of_failed wanted loadedMore⟩
    | @loaded document other repeats =>
      left
      have same := outcome_of_copies repeats (settings.reading (front ++ back)) filters
        (front ++ path :: back) settings.schemas
      rw [ofGivenDocument, ofGivenDocument, run_of_loaded rfl, run_of_loaded rfl] at same
      rw [ofSettings, ofSettings, run_of_loaded loaded, run_of_loaded loadedMore]
      exact same
  · have unwanted : ∀ paths, ¬ (settings.reading paths).generatesClient = true := fun _ => wanted
    exact .inl ((run_unwanted (unwanted _)).trans (run_unwanted (unwanted _)).symm)

end Generation

end SelectionGen

/-! Novels in two files of one directory. The second file extends what the first one defines, and extends it
first if it is also read by a path that sorts before both. -/
namespace SelectionGen.Projection.Library

open Sdl Schema Files

def novelsText : String :=
  "type Query { novel: Book } type Book { printer: Publisher } extend type Book { binder: Publisher }"

def sellersText : String := "extend type Book { seller: Publisher }"

def novelQuery : TypeDefinition where
  kind := .object
  name := customaryQuery
  fields := [{ name := ⟨"novel", by decide +kernel⟩, type := ⟨[], bookName⟩ }]

def novel : TypeDefinition where
  kind := .object
  name := bookName
  fields := [{ name := ⟨"printer", by decide +kernel⟩, type := ⟨[], publisherName⟩ }]

def novels : Document :=
  [.type novelQuery, .type novel,
   .type { kind := .object, isExtension := true, name := bookName,
           fields := [{ name := ⟨"binder", by decide +kernel⟩, type := ⟨[], publisherName⟩ }] }]

def sellers : Document :=
  [.type { kind := .object, isExtension := true, name := bookName,
           fields := [{ name := ⟨"seller", by decide +kernel⟩, type := ⟨[], publisherName⟩ }] }]

theorem read_novelsText : Document.read novelsText = .ok novels := by decide +kernel

theorem read_sellersText : Document.read sellersText = .ok sellers := by decide +kernel

/-- The directory `s` with both texts. -/
def shelves : Tree where
  files := [(["s", "a.graphqls"], novelsText.toUTF8), (["s", "b.graphqls"], sellersText.toUTF8)]

/-- The directory by its name, and the second file by its name and by a way around. -/
def shelf : Path := { parts := ["s"] }

def direct : Path := { parts := ["s", "b.graphqls"] }

def respelled : Path := { parts := ["s", "..", "s", "b.graphqls"] }

theorem reach_shelf (rest : List String) :
    shelves.reach false Tree.linkLimit [] ("s" :: rest) = shelves.reach false Tree.linkLimit ["s"] rest :=
  reach_name rfl rfl rfl (by decide) (by decide) (by decide)

theorem reach_novels : shelves.reach false Tree.linkLimit [] ["s", "a.graphqls"] = .ok ["s", "a.graphqls"] := by
  rw [reach_shelf, reach_name rfl rfl (by decide) (by decide) (by decide) (by decide), Tree.reach]
  rfl

theorem reach_sellers : shelves.reach false Tree.linkLimit [] ["s", "b.graphqls"] = .ok ["s", "b.graphqls"] := by
  rw [reach_shelf, reach_name rfl rfl (by decide) (by decide) (by decide) (by decide), Tree.reach]
  rfl

theorem reach_respelled : shelves.reach false Tree.linkLimit [] ["s", "..", "s", "b.graphqls"]
    = .ok ["s", "b.graphqls"] := by
  rw [reach_shelf, reach_back rfl rfl (by decide)]
  exact reach_sellers

theorem files_of_shelf : filesOfPath shelves [] shelf = .ok ["s/a.graphqls", "s/b.graphqls"] := by
  have reached : shelves.reach false Tree.linkLimit [] shelf.parts = .ok ["s"] := by
    rw [shelf, reach_shelf, Tree.reach]
  rw [filesOfPath_of_reach (by decide) (by decide) reached]
  decide

theorem files_of_direct : filesOfPath shelves [] direct = .ok ["s/b.graphqls"] := by
  rw [filesOfPath_of_reach (by decide) (by decide) reach_sellers]
  decide

theorem files_of_respelled : filesOfPath shelves [] respelled = .ok ["s/../s/b.graphqls"] := by
  rw [filesOfPath_of_reach (by decide) (by decide) reach_respelled]
  decide

theorem resolve_novels : shelves.resolve [] "s/a.graphqls" = .ok ["s", "a.graphqls"] :=
  (resolve_relative ["s", "a.graphqls"] (by decide) (by decide) (by decide)).trans reach_novels

theorem resolve_sellers : shelves.resolve [] "s/b.graphqls" = .ok ["s", "b.graphqls"] :=
  (resolve_relative ["s", "b.graphqls"] (by decide) (by decide) (by decide)).trans reach_sellers

theorem resolve_respelled : shelves.resolve [] "s/../s/b.graphqls" = .ok ["s", "b.graphqls"] :=
  (resolve_relative ["s", "..", "s", "b.graphqls"] (by decide) (by decide) (by decide)).trans reach_respelled

theorem read_novels :
    (Source.file "s/a.graphqls" (shelves.read [] "s/a.graphqls")).read = .ok novels := by
  have held : shelves.read [] "s/a.graphqls" = .ok novelsText.toUTF8 := by
    rw [Tree.read, resolve_novels]
    decide
  rw [held]
  exact read_ascii (by decide) (by decide) read_novelsText

theorem leadsAlong_respelled : LeadsAlong shelves [] "s/b.graphqls" "s/../s/b.graphqls" := by
  intro place leads
  rwa [resolve_respelled, ← resolve_sellers]

theorem read_sellers :
    (Source.file "s/b.graphqls" (shelves.read [] "s/b.graphqls")).read = .ok sellers := by
  have held : shelves.read [] "s/b.graphqls" = .ok sellersText.toUTF8 := by
    rw [Tree.read, resolve_sellers]
    decide
  rw [held]
  exact read_ascii (by decide) (by decide) read_sellersText

theorem load_shelf : (load shelves [] [shelf] []).outcome = .ok (novels ++ sellers) := by
  have listed : [shelf].mapM (filesOfPath shelves []) = .ok [["s/a.graphqls", "s/b.graphqls"]] := by
    rw [List.mapM_cons, files_of_shelf]
    rfl
  have ordered : inOrder ["s/a.graphqls", "s/b.graphqls"] = ["s/a.graphqls", "s/b.graphqls"] :=
    inOrder_eq (by decide) (.refl _)
  rw [load_outcome, sources_eq, listed]
  show gather (sourcesOf shelves [] [] ["s/a.graphqls", "s/b.graphqls"]) = _
  rw [sourcesOf, ordered]
  show gather [.file "s/a.graphqls" _, .file "s/b.graphqls" _] = _
  rw [gather_cons, read_novels, gather_cons, read_sellers]
  rfl

theorem load_respelled :
    (load shelves [] [shelf, respelled] []).outcome = .ok (sellers ++ (novels ++ sellers)) := by
  have listed : [shelf, respelled].mapM (filesOfPath shelves [])
      = .ok [["s/a.graphqls", "s/b.graphqls"], ["s/../s/b.graphqls"]] := by
    rw [List.mapM_cons, files_of_shelf, List.mapM_cons, files_of_respelled]
    rfl
  have ordered : inOrder ["s/a.graphqls", "s/b.graphqls", "s/../s/b.graphqls"]
      = ["s/../s/b.graphqls", "s/a.graphqls", "s/b.graphqls"] :=
    inOrder_eq (by decide) (by decide)
  rw [load_outcome, sources_eq, listed]
  show gather (sourcesOf shelves [] [] ["s/a.graphqls", "s/b.graphqls", "s/../s/b.graphqls"]) = _
  rw [sourcesOf, ordered]
  show gather [.file "s/../s/b.graphqls" _, .file "s/a.graphqls" _, .file "s/b.graphqls" _] = _
  rw [gather_cons, read_of_leadsAlong leadsAlong_respelled read_sellers, gather_cons, read_novels,
    gather_cons, read_sellers]
  rfl

/-- Wherever novels stand, the query leads to them and they lead nowhere. -/
theorem outcome_novels {settings : Settings} {document : Document} (position place : Nat)
    (wanted : settings.generatesClient = true)
    (root : findRoot? document .query = some (position, novelQuery))
    (leads : Context.rootTargets ⟨settings, document⟩ position novelQuery = [(place, novel)])
    (ends : Context.targets ⟨settings, document⟩ (place, novel) = []) :
    (Generation.ofGivenDocument settings [] document).outcome
      = .ok { queryTypes := [Context.rootProjectionOf ⟨settings, document⟩ position novelQuery]
              clientProjections := [Context.projection ⟨settings, document⟩ (place, novel)] } := by
  have descent : Context.Descent ⟨settings, document⟩
      (Context.rootTargets ⟨settings, document⟩ position novelQuery)
      [] [(place, novel)] [Target.entry (place, novel)] none := by
    rw [leads]
    exact .alone rfl (by simp [ends]) .done
  exact Generation.outcome_of_descent wanted root descent

end SelectionGen.Projection.Library

namespace SelectionGen.Generation

open Sdl Schema Files Projection Library

/-- Naming the second file besides the directory that it is in changes nothing, and neither do further copies of
what it defines. -/
theorem shelves_repeated :
    Repeats (novels ++ sellers) (novels ++ (sellers ++ sellers)) ∧
    (ofGivenDocument {} [] (novels ++ sellers)).outcome
      = (ofGivenDocument {} [] (novels ++ (sellers ++ sellers))).outcome ∧
    NamesAgain shelves [] [shelf] direct ∧
    (ofSettings (Settings.reading {} [shelf]) [] shelves []).outcome
      = (ofSettings (Settings.reading {} [shelf, direct]) [] shelves []).outcome := by
  have repeats : Repeats (novels ++ sellers ++ []) (novels ++ sellers ++ (sellers ++ [])) :=
    .block _ [] (List.subset_append_right novels sellers)
  have again : NamesAgain shelves [] ([shelf] ++ []) direct :=
    .file files_of_direct List.mem_cons_self files_of_shelf (by simp) (fun _ leads => leads) (String.le_refl _)
  rw [List.append_nil, List.append_nil, List.append_assoc] at repeats
  refine ⟨repeats, outcome_of_repeats.1 _ _ repeats {} [], again, ?_⟩
  rcases outcome_of_repeats.2 shelves [] [shelf] [] direct again {} [] with same | ⟨error, _, failed, _⟩
  · exact same
  · have loaded : (load shelves [] (Settings.reading {} [shelf]).schemaPaths []).outcome = _ := load_shelf
    rw [List.append_nil, outcome_of_loaded loaded,
      outcome_novels 0 1 rfl (by decide) (by decide) (by decide)] at failed
    cases failed

/-- Read by a path that sorts first, the second file extends books before the first one does, and the class of
books has its accessors in another order. -/
theorem respelled_reorders :
    (∃ place, shelves.resolve [] "s/b.graphqls" = .ok place ∧
      shelves.resolve [] "s/../s/b.graphqls" = .ok place) ∧
    filesOfPath shelves [] shelf = .ok ["s/a.graphqls", "s/b.graphqls"] ∧
    filesOfPath shelves [] respelled = .ok ["s/../s/b.graphqls"] ∧
    (ofSettings { schemaPaths := [shelf] } [] shelves []).outcome
      ≠ (ofSettings { schemaPaths := [shelf, respelled] } [] shelves []).outcome := by
  refine ⟨⟨_, resolve_sellers, resolve_respelled⟩, files_of_shelf, files_of_respelled, fun same => ?_⟩
  rw [outcome_of_loaded load_shelf, outcome_of_loaded load_respelled,
    outcome_novels 0 1 rfl (by decide) (by decide) (by decide),
    outcome_novels 1 2 rfl (by decide) (by decide) (by decide)] at same
  have classes := congrArg Api.clientProjections (Except.ok.inj same)
  have fields := congrArg (List.map fun projection => projection.accessors.map Accessor.fieldName) classes
  exact absurd fields (by decide)

end SelectionGen.Generation
