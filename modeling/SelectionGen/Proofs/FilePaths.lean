import SelectionGen.Proofs.FileTrees
import SelectionGen.Proofs.ImportedPackages
import SelectionGen.Proofs.RenderingFaults

/-! Where the files of an API lie. A module lies in the directory of its package, and every directory on the way to it
has a file that makes a package of it; there are no other files, and no path comes twice. Nothing in a path leads out
of the directory that it is read in. -/
namespace SelectionGen

open Files

namespace Settings

/-- The parts of a name that was accepted are names of directories. -/
theorem PackageName.isEntryName (package : PackageName) : ∀ part ∈ Text.pieces '.' package.text, IsEntryName part := by
  intro part member
  obtain ⟨piece, listed, rfl⟩ := List.mem_map.mp member
  obtain ⟨first, rest, rfl, opens, continues⟩ := pieces_of_accepted package.accepted piece listed
  have undotted : first ≠ '.' := by
    rintro rfl
    exact not_continues_dot (.inl opens)
  have unslashed : '/' ∉ first :: rest := by
    intro slash
    rcases List.mem_cons.mp slash with rfl | later
    · exact not_continues_slash (.inl opens)
    · exact (continues _ later).elim not_continues_slash (by decide)
  refine ⟨?_, ?_, ?_, by rwa [String.toList_ofList]⟩
  · simp [← String.toList_inj]
  · simp [← String.toList_inj, undotted]
  · simp [← String.toList_inj, undotted]

theorem isEntryName_clientPackage (settings : Settings) :
    ∀ part ∈ Text.pieces '.' settings.clientPackage, IsEntryName part := by
  rw [clientPackage, Text.pieces_append rfl]
  exact List.forall_mem_append.mpr ⟨settings.packageName.isEntryName, settings.clientPart.isEntryName⟩

theorem isEntryName_queriesPackage (settings : Settings) :
    ∀ part ∈ Text.pieces '.' settings.queriesPackage, IsEntryName part := by
  rw [queriesPackage, Text.pieces_append rfl]
  exact List.forall_mem_append.mpr ⟨settings.packageName.isEntryName, settings.queriesPart.isEntryName⟩

end Settings

namespace Target

/-! The packages on the way to a package. -/

/-- A package is another one or lies, at whatever depth, around it. -/
def OnTheWay (package target : String) : Prop := package = target ∨ ∃ rest, target = package ++ "." ++ rest

theorem mem_packagesTo {package target : String} : package ∈ packagesTo target ↔ OnTheWay package target := by
  have dotted : ".".toList = ['.'] := rfl
  simp only [packagesTo, List.mem_map, List.mem_range]
  constructor
  · rintro ⟨index, below, rfl⟩
    have whole := Text.intercalate_pieces dotted target
    have split := List.take_append_drop (index + 1) (Text.pieces '.' target)
    by_cases last : (Text.pieces '.' target).drop (index + 1) = []
    · rw [last, List.append_nil] at split
      exact .inl (by rw [split, whole])
    · refine .inr ⟨".".intercalate ((Text.pieces '.' target).drop (index + 1)), ?_⟩
      have some : (Text.pieces '.' target).take (index + 1) ≠ [] := by
        simp [Text.pieces_ne_nil]
      rw [← String.intercalate_append_of_ne_nil some last, split, whole]
  · have inverse := Text.intercalate_pieces dotted package
    have positive := List.length_pos_iff.mpr (Text.pieces_ne_nil '.' package)
    rintro (rfl | ⟨rest, rfl⟩)
    · refine ⟨(Text.pieces '.' package).length - 1, by omega, ?_⟩
      rw [Nat.sub_add_cancel positive, List.take_length, inverse]
    · rw [Text.pieces_append dotted]
      refine ⟨(Text.pieces '.' package).length - 1, by rw [List.length_append]; omega, ?_⟩
      rw [Nat.sub_add_cancel positive, List.take_left, inverse]

theorem OnTheWay.pieces {package target : String} (onTheWay : OnTheWay package target) :
    Text.pieces '.' package <+: Text.pieces '.' target := by
  rcases onTheWay with rfl | ⟨rest, rfl⟩
  · exact List.prefix_rfl
  · rw [Text.pieces_append rfl]
    exact List.prefix_append _ _

theorem slash_not_mem {package : String} (parts : ∀ part ∈ Text.pieces '.' package, IsEntryName part) :
    '/' ∉ package.toList := by
  have whole : ".".intercalate (Text.pieces '.' package) = package := Text.intercalate_pieces rfl package
  rw [← whole]
  obtain ⟨first, others, split⟩ := List.exists_cons_of_ne_nil (Text.pieces_ne_nil '.' package)
  rw [split] at parts ⊢
  obtain ⟨isEntry, areEntries⟩ := List.forall_mem_cons.mp parts
  rw [Text.toList_intercalate_cons, List.mem_append, List.mem_flatMap]
  rintro (inFirst | ⟨part, listed, inPart⟩)
  · exact isEntry.2.2.2 inFirst
  · rcases List.mem_append.mp inPart with dot | inPart
    · exact absurd dot (by decide)
    · exact (areEntries part listed).2.2.2 inPart

theorem splitSlashes_inPackage {package name : String} (parts : ∀ part ∈ Text.pieces '.' package, IsEntryName part)
    (isEntry : IsEntryName name) :
    splitSlashes (packagePath package ++ "/" ++ name) = Text.pieces '.' package ++ [name] := by
  rw [splitSlashes_append, Settings.splitSlashes_packagePath_eq (slash_not_mem parts), splitSlashes_of_entry isEntry]

theorem packagePath_injective {package other : String} (unslashed : '/' ∉ package.toList)
    (otherUnslashed : '/' ∉ other.toList) (same : packagePath package = packagePath other) : package = other := by
  have dotted : ".".toList = ['.'] := rfl
  have split := congrArg splitSlashes same
  rw [Settings.splitSlashes_packagePath_eq unslashed, Settings.splitSlashes_packagePath_eq otherUnslashed] at split
  rw [← Text.intercalate_pieces dotted package, split, Text.intercalate_pieces dotted]

/-- A path says in which package it lies and under which name. -/
theorem inPackage_injective {package other name otherName : String}
    (parts : ∀ part ∈ Text.pieces '.' package, IsEntryName part)
    (otherParts : ∀ part ∈ Text.pieces '.' other, IsEntryName part) (isEntry : IsEntryName name)
    (otherIsEntry : IsEntryName otherName)
    (same : packagePath package ++ "/" ++ name = packagePath other ++ "/" ++ otherName) :
    package = other ∧ name = otherName := by
  have split := congrArg splitSlashes same
  rw [splitSlashes_append, splitSlashes_append, splitSlashes_of_entry isEntry,
    splitSlashes_of_entry otherIsEntry] at split
  obtain ⟨samePaths, sameNames⟩ := List.append_inj' split rfl
  exact ⟨packagePath_injective (slash_not_mem parts) (slash_not_mem otherParts) (splitSlashes_injective samePaths),
    List.singleton_inj.mp sameNames⟩

/-! The files of an API. -/

section Paths

variable {ε : Type} {fill : TemplateRule ε} {settings : Settings} {headers : List String}
  {templates files modules : Files} {api : Api} {source : ModuleSource} {sources before : List ModuleSource}
  {path : String}

/-- Modules are written, each at its path, exactly where their classes are new in their packages and no template
fails. -/
theorem moduleFiles_eq_ok_iff : moduleFiles templates fill before sources = .ok modules ↔
    checkUnique before sources = .ok () ∧
      List.Forall₂ (fun source file => source.path = file.1 ∧ source.written templates fill = .ok file.2)
        sources modules := by
  induction sources generalizing before modules with
  | nil => cases modules <;> simp [moduleFiles, checkUnique]
  | cons source rest ih =>
    rw [moduleFiles, checkUnique_cons before source rest, List.forall₂_cons_left_iff]
    cases checkUnique before [source] with
    | error error => exact iff_of_false (by rintro ⟨⟩) (by rintro ⟨⟨⟩, _⟩)
    | ok _ =>
      cases written : source.written templates fill with
      | error fault => exact iff_of_false (by rintro ⟨⟩) (by rintro ⟨_, _, _, ⟨_, ⟨⟩⟩, _⟩)
      | ok text =>
        constructor
        · intro made
          cases later : moduleFiles templates fill (before ++ [source]) rest with
          | error error => rw [later] at made; cases made
          | ok others =>
            rw [later] at made
            obtain rfl := Except.ok.inj made
            obtain ⟨unique, each⟩ := ih.mp later
            exact ⟨unique, _, _, ⟨rfl, rfl⟩, each, rfl⟩
        · rintro ⟨unique, ⟨path, _⟩, others, ⟨rfl, ⟨⟩⟩, each, rfl⟩
          have later : moduleFiles templates fill (before ++ [source]) rest = .ok others := ih.mpr ⟨unique, each⟩
          rw [later]
          rfl

theorem exists_moduleFiles_iff : (∃ modules, moduleFiles templates fill before sources = .ok modules) ↔
    checkUnique before sources = .ok () ∧ ∀ source ∈ sources, ∃ text, source.written templates fill = .ok text := by
  simp only [moduleFiles_eq_ok_iff, exists_and_left]
  refine and_congr_right fun _ => ⟨fun ⟨modules, each⟩ source member => ?_, fun each => ?_⟩
  · obtain ⟨file, _, _, written⟩ := exists_left_of_mem each.flip member
    exact ⟨_, written⟩
  · let fileOf (source : ModuleSource) : String × String :=
      (source.path, (source.written templates fill).toOption.getD "")
    refine ⟨sources.map fileOf, List.forall₂_map_right_iff.mpr (List.forall₂_same.mpr fun source member => ?_)⟩
    obtain ⟨text, written⟩ := each source member
    exact ⟨rfl, by simp [fileOf, written, Except.toOption]⟩

/-- The name of the file that makes a package of a directory. -/
def packageFileName : String := "__init__.py"

def ModuleSource.fileName (source : ModuleSource) : String := source.moduleName ++ ".py"

theorem mem_moduleSources {source : ModuleSource} : source ∈ moduleSources api settings ↔
    (api.clientProjections ≠ [] ∧
      source = ⟨settings.clientPackage, projectionsModule, "Generated GraphQL projections.", api.clientProjections⟩) ∨
    api.queryTypes ≠ [] ∧
      source
        = ⟨settings.queriesPackage, queriesModule, "Generated GraphQL root query projections.", api.queryTypes⟩ := by
  rw [moduleSources, List.mem_filter, List.mem_pair]
  constructor
  · rintro ⟨rfl | rfl, isSome⟩
    · exact .inl ⟨by simpa using isSome, rfl⟩
    · exact .inr ⟨by simpa using isSome, rfl⟩
  · rintro (⟨isSome, rfl⟩ | ⟨isSome, rfl⟩)
    · exact ⟨.inl rfl, by simpa using isSome⟩
    · exact ⟨.inr rfl, by simpa using isSome⟩

theorem isEntryName_projectionsFile : IsEntryName (projectionsModule ++ ".py") := by decide

theorem isEntryName_queriesFile : IsEntryName (queriesModule ++ ".py") := by decide

theorem isEntryName_packageFileName : IsEntryName packageFileName := by decide

theorem ModuleSource.isEntryName {source : ModuleSource} (member : source ∈ moduleSources api settings) :
    (∀ part ∈ Text.pieces '.' source.package, IsEntryName part) ∧ IsEntryName source.fileName := by
  rcases mem_moduleSources.mp member with ⟨_, rfl⟩ | ⟨_, rfl⟩
  · exact ⟨settings.isEntryName_clientPackage, isEntryName_projectionsFile⟩
  · exact ⟨settings.isEntryName_queriesPackage, isEntryName_queriesFile⟩

theorem ModuleSource.path_eq (source : ModuleSource) :
    source.path = packagePath source.package ++ "/" ++ source.fileName := by
  simp only [path, fileName, String.append_assoc]

theorem packageFile_path (package : String) :
    packagePath package ++ "/__init__.py" = packagePath package ++ "/" ++ packageFileName := by
  rw [String.append_assoc]
  rfl

/-- The files of some modules lie in a package on the way to one of them. -/
theorem mem_layOut_paths : path ∈ (layOut sources).map Prod.fst ↔
    ∃ source ∈ sources, path = source.path ∨
      ∃ package, OnTheWay package source.package ∧ path = packagePath package ++ "/" ++ packageFileName := by
  simp only [layOut, List.mem_map, mem_arrange, mem_packagesTo]
  constructor
  · rintro ⟨_, ⟨source, member, rfl⟩ | ⟨source, member, package, onTheWay, rfl⟩, rfl⟩
    · exact ⟨source, member, .inl rfl⟩
    · exact ⟨source, member, .inr ⟨package, onTheWay, packageFile_path package⟩⟩
  · rintro ⟨source, member, rfl | ⟨package, onTheWay, rfl⟩⟩
    · exact ⟨_, .inl ⟨source, member, rfl⟩, rfl⟩
    · exact ⟨_, .inr ⟨source, member, package, onTheWay, rfl⟩, packageFile_path package⟩

theorem packageFile_mem_arrange (member : source ∈ sources) {package : String}
    (onTheWay : OnTheWay package source.package) : packageFile sources package ∈ arrange modules sources :=
  mem_arrange.mpr (.inr ⟨source, member, package, mem_packagesTo.mpr onTheWay, rfl⟩)

theorem pieces_of_onTheWay {source : ModuleSource} (member : source ∈ moduleSources api settings) {package : String}
    (onTheWay : OnTheWay package source.package) : ∀ part ∈ Text.pieces '.' package, IsEntryName part :=
  fun part inPackage => (ModuleSource.isEntryName member).1 part (onTheWay.pieces.subset inPackage)

theorem fileName_ne (member : source ∈ moduleSources api settings) : source.fileName ≠ packageFileName := by
  rcases mem_moduleSources.mp member with ⟨_, rfl⟩ | ⟨_, rfl⟩
  · exact (by decide : projectionsModule ++ ".py" ≠ packageFileName)
  · exact (by decide : queriesModule ++ ".py" ≠ packageFileName)

/-- Where files lie does not depend on what stands in them. -/
theorem arrange_paths_perm (paths : modules.map Prod.fst = sources.map ModuleSource.path) :
    ((arrange modules sources).map Prod.fst).Perm
      (sources.map ModuleSource.path ++ ((sources.flatMap fun source => packagesTo source.package).eraseDups.map
        fun package => packagePath package ++ "/" ++ packageFileName)) := by
  have sorted := (List.mergeSort_perm
    (modules ++ (sources.flatMap fun source => packagesTo source.package).eraseDups.map (packageFile sources))
    fun a b => decide (a.1 ≤ b.1)).map Prod.fst
  have ofPackages : Prod.fst ∘ packageFile sources = fun package => packagePath package ++ "/" ++ packageFileName :=
    funext packageFile_path
  rw [List.map_append, paths, List.map_map, ofPackages] at sorted
  exact sorted

theorem arrange_paths_sorted (modules : Files) (sources : List ModuleSource) :
    ((arrange modules sources).map Prod.fst).Pairwise (· ≤ ·) := by
  have ordered : (arrange modules sources).Pairwise fun a b => decide (a.1 ≤ b.1) = true :=
    List.pairwise_mergeSort (fun _ _ _ => by simpa using String.le_trans)
      (fun a b => by simpa using String.le_total a.1 b.1) _
  exact List.pairwise_map.mpr (ordered.imp of_decide_eq_true)

theorem declared_paths (sources : List ModuleSource) :
    (sources.map ModuleSource.file).map Prod.fst = sources.map ModuleSource.path := List.map_map

theorem layOut_paths_perm (sources : List ModuleSource) : ((layOut sources).map Prod.fst).Perm
    (sources.map ModuleSource.path ++ ((sources.flatMap fun source => packagesTo source.package).eraseDups.map
      fun package => packagePath package ++ "/" ++ packageFileName)) :=
  arrange_paths_perm (declared_paths sources)

/-- Modules that templates write lie where they do as they are declared. -/
theorem arrange_paths (paths : modules.map Prod.fst = sources.map ModuleSource.path) :
    (arrange modules sources).map Prod.fst = (layOut sources).map Prod.fst :=
  ((arrange_paths_perm paths).trans (layOut_paths_perm sources).symm).eq_of_pairwise
    (fun _ _ _ _ => String.le_antisymm) (arrange_paths_sorted _ _) (arrange_paths_sorted _ _)

/-- The two modules are called differently. -/
theorem modulePaths_nodup : ((moduleSources api settings).map ModuleSource.path).Nodup := by
  let client : ModuleSource :=
    ⟨settings.clientPackage, projectionsModule, "Generated GraphQL projections.", api.clientProjections⟩
  let queries : ModuleSource :=
    ⟨settings.queriesPackage, queriesModule, "Generated GraphQL root query projections.", api.queryTypes⟩
  have apart : client.path ≠ queries.path := by
    intro same
    rw [ModuleSource.path_eq, ModuleSource.path_eq] at same
    have sameName := (inPackage_injective settings.isEntryName_clientPackage settings.isEntryName_queriesPackage
      isEntryName_projectionsFile isEntryName_queriesFile same).2
    exact absurd sameName (by decide : projectionsModule ++ ".py" ≠ queriesModule ++ ".py")
  have both : ([client, queries].map ModuleSource.path).Nodup := by simpa using apart
  exact both.sublist (List.filter_sublist.map _)

/-- No path comes twice: no module is called like the file of a package, and packages lie in different directories. -/
theorem layOut_paths_nodup : ((layOut (moduleSources api settings)).map Prod.fst).Nodup := by
  refine (layOut_paths_perm _).nodup_iff.mpr (List.Nodup.append modulePaths_nodup ?_ ?_)
  · refine (nodup_eraseDups _).map_on fun package member other otherMember same => ?_
    obtain ⟨source, listed, onTheWay⟩ := List.mem_flatMap.mp (List.mem_eraseDups.mp member)
    obtain ⟨another, alsoListed, alsoOnTheWay⟩ := List.mem_flatMap.mp (List.mem_eraseDups.mp otherMember)
    exact (inPackage_injective (pieces_of_onTheWay listed (mem_packagesTo.mp onTheWay))
      (pieces_of_onTheWay alsoListed (mem_packagesTo.mp alsoOnTheWay)) isEntryName_packageFileName
      isEntryName_packageFileName same).1
  · intro path ofModule ofPackage
    obtain ⟨source, listed, rfl⟩ := List.mem_map.mp ofModule
    obtain ⟨package, member, same⟩ := List.mem_map.mp ofPackage
    obtain ⟨other, alsoListed, onTheWay⟩ := List.mem_flatMap.mp (List.mem_eraseDups.mp member)
    obtain ⟨parts, isEntry⟩ := ModuleSource.isEntryName listed
    rw [ModuleSource.path_eq] at same
    have sameName := (inPackage_injective (pieces_of_onTheWay alsoListed (mem_packagesTo.mp onTheWay)) parts
      isEntryName_packageFileName isEntry same).2
    exact fileName_ne listed sameName.symm

theorem layOut_paths_ascending : ((layOut (moduleSources api settings)).map Prod.fst).Pairwise (· < ·) := by
  have sorted := arrange_paths_sorted ((moduleSources api settings).map ModuleSource.file) (moduleSources api settings)
  exact (sorted.and layOut_paths_nodup).imp fun both =>
    String.not_le.mp fun after => both.2 (String.le_antisymm both.1 after)

/-- What the files of an API are called: a module for each kind of classes that there are, and a file for each package
on the way to such a module. -/
inductive IsFilePath (settings : Settings) (api : Api) : String → Prop
  | projections (isSome : api.clientProjections ≠ []) :
    IsFilePath settings api (packagePath settings.clientPackage ++ "/projections.py")
  | queries (isSome : api.queryTypes ≠ []) :
    IsFilePath settings api (packagePath settings.queriesPackage ++ "/queries.py")
  | clientPackage {package : String} (isSome : api.clientProjections ≠ [])
    (onTheWay : OnTheWay package settings.clientPackage) :
    IsFilePath settings api (packagePath package ++ "/__init__.py")
  | queriesPackage {package : String} (isSome : api.queryTypes ≠ [])
    (onTheWay : OnTheWay package settings.queriesPackage) :
    IsFilePath settings api (packagePath package ++ "/__init__.py")

theorem mem_layOut_paths_iff :
    path ∈ (layOut (moduleSources api settings)).map Prod.fst ↔ IsFilePath settings api path := by
  rw [mem_layOut_paths]
  constructor
  · rintro ⟨source, member, rfl | ⟨package, onTheWay, rfl⟩⟩
    · rcases mem_moduleSources.mp member with ⟨isSome, rfl⟩ | ⟨isSome, rfl⟩
      · rw [ModuleSource.path_eq, String.append_assoc]
        exact .projections isSome
      · rw [ModuleSource.path_eq, String.append_assoc]
        exact .queries isSome
    · rw [← packageFile_path]
      rcases mem_moduleSources.mp member with ⟨isSome, rfl⟩ | ⟨isSome, rfl⟩
      · exact .clientPackage isSome onTheWay
      · exact .queriesPackage isSome onTheWay
  · intro isFile
    cases isFile with
    | projections isSome =>
      refine ⟨_, mem_moduleSources.mpr (.inl ⟨isSome, rfl⟩), .inl ?_⟩
      rw [ModuleSource.path_eq, String.append_assoc]
      rfl
    | queries isSome =>
      refine ⟨_, mem_moduleSources.mpr (.inr ⟨isSome, rfl⟩), .inl ?_⟩
      rw [ModuleSource.path_eq, String.append_assoc]
      rfl
    | clientPackage isSome onTheWay =>
      exact ⟨_, mem_moduleSources.mpr (.inl ⟨isSome, rfl⟩), .inr ⟨_, onTheWay, packageFile_path _⟩⟩
    | queriesPackage isSome onTheWay =>
      exact ⟨_, mem_moduleSources.mpr (.inr ⟨isSome, rfl⟩), .inr ⟨_, onTheWay, packageFile_path _⟩⟩

/-- A path has the parts of a package and then a name, which has a dot in it as they have not. -/
theorem splitSlashes_of_mem_layOut (member : path ∈ (layOut (moduleSources api settings)).map Prod.fst) :
    ∃ package name, splitSlashes path = Text.pieces '.' package ++ [name] ∧
      (∀ part ∈ Text.pieces '.' package, IsEntryName part) ∧ IsEntryName name ∧ '.' ∈ name.toList := by
  obtain ⟨source, listed, rfl | ⟨package, onTheWay, rfl⟩⟩ := mem_layOut_paths.mp member
  · obtain ⟨parts, isEntry⟩ := ModuleSource.isEntryName listed
    refine ⟨source.package, source.fileName, ?_, parts, isEntry, by simp [ModuleSource.fileName]⟩
    rw [ModuleSource.path_eq, splitSlashes_inPackage parts isEntry]
  · have parts := pieces_of_onTheWay listed onTheWay
    exact ⟨package, packageFileName, splitSlashes_inPackage parts isEntryName_packageFileName, parts,
      isEntryName_packageFileName, by decide⟩

/-- Nothing in a path stands for anything but an entry of a directory. -/
theorem isEntryName_of_mem_layOut (member : path ∈ (layOut (moduleSources api settings)).map Prod.fst) :
    ∀ name ∈ splitSlashes path, IsEntryName name := by
  obtain ⟨package, name, split, parts, isEntry, _⟩ := splitSlashes_of_mem_layOut member
  rw [split]
  exact List.forall_mem_append.mpr ⟨parts, List.forall_mem_singleton.mpr isEntry⟩

/-- No file lies where another one needs a directory. -/
theorem not_prefix_of_mem_layOut {other : String}
    (member : path ∈ (layOut (moduleSources api settings)).map Prod.fst)
    (otherMember : other ∈ (layOut (moduleSources api settings)).map Prod.fst) :
    ¬ splitSlashes path <+: (splitSlashes other).dropLast := by
  obtain ⟨package, name, split, _, _, dotted⟩ := splitSlashes_of_mem_layOut member
  obtain ⟨otherPackage, otherName, otherSplit, _⟩ := splitSlashes_of_mem_layOut otherMember
  rw [split, otherSplit, List.dropLast_concat]
  intro isPrefix
  have isPart := isPrefix.subset (List.mem_append_right _ List.mem_cons_self)
  exact Text.not_mem_of_mem_pieces isPart dotted

theorem paths_of_render (rendered : render settings headers templates api ε fill = .ok files) :
    files.map Prod.fst = (layOut (moduleSources api settings)).map Prod.fst := by
  obtain ⟨modules, made, rfl, _⟩ := arranged_of_render rendered
  have paths : modules.map Prod.fst = (moduleSources api settings).map ModuleSource.path := by
    rw [← List.forall₂_eq_eq_eq, List.forall₂_map_left_iff, List.forall₂_map_right_iff]
    exact (moduleFiles_eq_ok_iff.mp made).2.flip.imp fun _ _ both => both.1.symm
  rw [← arrange_paths paths, List.map_map]
  rfl

theorem mem_paths_of_render (rendered : render settings headers templates api ε fill = .ok files) :
    path ∈ files.map Prod.fst ↔ IsFilePath settings api path := by
  rw [paths_of_render rendered, mem_layOut_paths_iff]

end Paths

/-! What packages export. -/

section Exports

open Grammar

/-- The module next to a package from which a statement brings something in, and what it brings in. -/
def Statement.broughtIn? (statement : Statement) : Option (String × List ImportEntry) :=
  match statement.form with
  | .importsFrom 1 (some source) (some names) => some (source, names.map Import.entryOf)
  | _ => none

/-- A text that stands in code as such. -/
def Expression.text? (expression : Expression) : Option String :=
  match expression.form with
  | .constant (.text text) => some text
  | _ => none

/-- The names that a statement lists as what is exported. -/
def Statement.exported? (statement : Statement) : Option (List String) :=
  match statement.form with
  | .assignment [⟨_, .name "__all__"⟩] ⟨_, .list values⟩ => values.mapM Expression.text?
  | _ => none

/-- What is related to a list in two parts has two parts. -/
theorem exists_append_of_forall₂ {α β : Type} {related : α → β → Prop} {front back : List α} {whole : List β}
    (lists : List.Forall₂ related (front ++ back) whole) :
    ∃ first second, whole = first ++ second ∧ List.Forall₂ related front first ∧ List.Forall₂ related back second := by
  refine ⟨whole.take front.length, whole.drop front.length, (List.take_append_drop _ _).symm, ?_, ?_⟩
  · simpa using List.forall₂_take front.length lists
  · simpa using List.forall₂_drop front.length lists

theorem filterMap_eq_map {α β γ : Type} {f : β → Option γ} {g : α → γ} {left : List α} {right : List β}
    (each : List.Forall₂ (fun item other => f other = some (g item)) left right) : right.filterMap f = left.map g := by
  induction each with
  | nil => rfl
  | cons here _ ih => rw [List.filterMap_cons_some here, ih, List.map_cons]

/-- The modules of a package, each with the classes that it defines. -/
def packageModules (settings : Settings) (api : Api) (package : String) : List (String × List String) :=
  (if settings.clientPackage = package ∧ api.clientProjections ≠ [] then
      [(projectionsModule, api.clientProjections.map Projection.name)] else [])
    ++ if settings.queriesPackage = package ∧ api.queryTypes ≠ [] then
      [(queriesModule, api.queryTypes.map Projection.name)] else []

variable {settings : Settings} {headers : List String} {files : Files} {api : Api} {package : String}
  {sources : List ModuleSource} {code : Code}

theorem packageModules_eq (settings : Settings) (api : Api) (package : String) :
    (modulesIn package (moduleSources api settings)).map (fun source => (source.moduleName, source.classNames))
      = packageModules settings api package := by
  have named (name title : String) (projections : List Projection) (ofPackage : String) :
      (modulesIn package ([⟨ofPackage, name, title, projections⟩].filter fun source => !source.projections.isEmpty)).map
          (fun source => (source.moduleName, source.classNames))
        = if ofPackage = package ∧ projections ≠ [] then [(name, projections.map Projection.name)] else [] := by
    by_cases same : ofPackage = package <;> cases projections <;> simp [modulesIn, ModuleSource.classNames, same]
  rw [packageModules, ← named projectionsModule "Generated GraphQL projections.",
    ← named queriesModule "Generated GraphQL root query projections.", ← List.map_append]
  simp only [modulesIn, ← List.filter_append]
  rfl

theorem exportedNames_eq_flatMap (settings : Settings) (api : Api) (package : String) :
    exportedNames package (moduleSources api settings) = (packageModules settings api package).flatMap Prod.snd := by
  rw [← packageModules_eq, List.flatMap_map]
  rfl

/-- The text that brings classes in from modules and lists them, name by name and line by line. -/
def exportText (modules : List (String × List String)) : String :=
  "\n".intercalate (["\"\"\"Generated GraphQL client package.\"\"\"", ""] ++
    if modules = [] then []
    else
      (modules.flatMap fun module => ["from ." ++ module.1 ++ " import ("]
          ++ module.2.map (fun name => "    " ++ name ++ ",") ++ [")"])
        ++ ["", "__all__ = ["] ++ (modules.flatMap Prod.snd).map (fun name => "    \"" ++ name ++ "\",") ++ ["]", ""])

theorem packageFile_text (settings : Settings) (api : Api) (package : String) :
    (packageFile (moduleSources api settings) package).2 = exportText (packageModules settings api package) := by
  rw [exportText, ← exportedNames_eq_flatMap, ← packageModules_eq, List.flatMap_map]
  simp only [packageFile, packageLines, List.map_eq_nil_iff, List.isEmpty_iff]
  rfl

theorem exported_of_offers {names : List String} {statement : Statement} (offers : Offers names statement) :
    statement.broughtIn? = none ∧ statement.exported? = some names := by
  obtain ⟨lines, values, rfl, listed⟩ := offers
  refine ⟨rfl, ?_⟩
  change values.mapM Expression.text? = some names
  induction listed with
  | nil => rfl
  | cons isText _ ih =>
    obtain ⟨line, rfl⟩ := isText
    rw [List.mapM_cons, ih]
    rfl

theorem brought_of_imports {moduleName : String} {entries : List ImportEntry} {statement : Statement}
    (imports : Import.Imports 1 moduleName entries statement) :
    statement.broughtIn? = some (moduleName, entries) ∧ statement.exported? = none := by
  obtain ⟨line, names, rfl, rfl⟩ := imports
  exact ⟨rfl, rfl⟩

/-- The file of a package brings in the classes of its modules and lists them, and does nothing else. -/
theorem exports_of_meant (meant : Meant (packageMeanings package sources) code) :
    code.filterMap Statement.broughtIn?
        = (modulesIn package sources).map (fun source => (source.moduleName, entriesOf source.classNames)) ∧
      code.filterMap Statement.exported?
        = if (modulesIn package sources).isEmpty then [] else [exportedNames package sources] := by
  obtain ⟨title, body, ⟨lines, rfl⟩, inBody, rfl⟩ := List.forall₂_cons_left_iff.mp meant
  have titleBrings : (documenting (Docstring.asRead packageTitle) lines).broughtIn? = none := rfl
  have titleExports : (documenting (Docstring.asRead packageTitle) lines).exported? = none := rfl
  rw [List.filterMap_cons_none titleBrings, List.filterMap_cons_none titleExports]
  split_ifs at inBody ⊢ with empty
  · obtain rfl := List.forall₂_nil_left_iff.mp inBody
    rw [List.isEmpty_iff.mp empty]
    exact ⟨rfl, rfl⟩
  · obtain ⟨front, last, rfl, inFront, isLast⟩ := exists_append_of_forall₂ inBody
    obtain ⟨offer, _, offers, nothing, rfl⟩ := List.forall₂_cons_left_iff.mp isLast
    obtain rfl := List.forall₂_nil_left_iff.mp nothing
    have brings := (List.forall₂_map_left_iff.mp inFront).imp fun _ _ imports => (brought_of_imports imports).1
    have exportsNone := (List.forall₂_map_left_iff.mp inFront).imp fun _ _ imports => (brought_of_imports imports).2
    obtain ⟨bringsNone, exports⟩ := exported_of_offers offers
    rw [List.filterMap_append, List.filterMap_append]
    constructor
    · rw [filterMap_eq_map brings]
      simp [bringsNone]
    · have noExport : front.filterMap Statement.exported? = [] := by
        rw [List.filterMap_eq_nil_iff]
        intro statement member
        obtain ⟨_, _, none⟩ := exists_left_of_mem exportsNone member
        exact none
      simp [noExport, exports]

/-- The file of a package of classes that can be defined is read as that, also behind headers. -/
theorem package_exports (definable : ∀ projection ∈ api.projections, IsDefinable projection.name)
    (areHeaders : ∀ header ∈ headers, IsHeader header) (package : String) :
    ∃ code, readCode (withHeaders headers (packageFile (moduleSources api settings) package).2) = .ok code ∧
      code.filterMap Statement.broughtIn?
        = (packageModules settings api package).map (fun module => (module.1, entriesOf module.2)) ∧
      code.filterMap Statement.exported?
        = if packageModules settings api package = [] then []
          else [(packageModules settings api package).flatMap Prod.snd] := by
  have exportable : ∀ source ∈ moduleSources api settings, source.Exportable := exportable_of_definable definable
  obtain ⟨code, read, meant⟩ := ((packageFile_spells exportable package).withHeaders areHeaders).readCode
    (takes_packageMeanings exportable) (reaches_packageMeanings _ _)
  obtain ⟨brings, exports⟩ := exports_of_meant meant
  refine ⟨code, read, ?_, ?_⟩
  · rw [brings, ← packageModules_eq, List.map_map]
    rfl
  · rw [exports, exportedNames_eq_flatMap, ← packageModules_eq]
    simp [List.isEmpty_iff]

end Exports

/-! Packages in the place of modules. -/

section Shadowing

variable {ε : Type} {fill : TemplateRule ε} {settings : Settings} {headers : List String} {templates files : Files}
  {api : Api}

theorem onTheWay_iff_pieces {package target : String} :
    OnTheWay package target ↔ Text.pieces '.' package <+: Text.pieces '.' target := by
  refine ⟨OnTheWay.pieces, ?_⟩
  rintro ⟨rest, split⟩
  have dotted : ".".toList = ['.'] := rfl
  have whole := Text.intercalate_pieces dotted target
  rw [← split] at whole
  by_cases none : rest = []
  · rw [none, List.append_nil, Text.intercalate_pieces dotted] at whole
    exact .inl whole
  · rw [String.intercalate_append_of_ne_nil (Text.pieces_ne_nil '.' package) none,
      Text.intercalate_pieces dotted] at whole
    exact .inr ⟨_, whole.symm⟩

theorem OnTheWay.of_append {package name target : String} (onTheWay : OnTheWay (package ++ "." ++ name) target) :
    OnTheWay package target := by
  rw [onTheWay_iff_pieces] at onTheWay ⊢
  rw [Text.pieces_append rfl] at onTheWay
  exact (List.prefix_append _ _).trans onTheWay

/-- What packages have in common in front does not matter for which of them is on the way. -/
theorem onTheWay_append {front package name target : String} :
    OnTheWay (front ++ "." ++ package ++ "." ++ name) (front ++ "." ++ target) ↔
      OnTheWay (package ++ "." ++ name) target := by
  have dotted : ".".toList = ['.'] := rfl
  simp only [onTheWay_iff_pieces, Text.pieces_append dotted, List.append_assoc, List.prefix_append_right_inj]

/-- A path of a package and the name of a module in it, written or to be taken for one. -/
def IsModule (sources : List ModuleSource) (package name : String) : Prop :=
  ∃ source ∈ sources, (package = source.package ∧ name = source.moduleName) ∨
    OnTheWay package source.package ∧ name = "__init__"

theorem mem_paths_module {path : String} :
    path ++ ".py" ∈ (layOut (moduleSources api settings)).map Prod.fst ↔
      ∃ package name, IsModule (moduleSources api settings) package name ∧
        path = packagePath package ++ "/" ++ name := by
  rw [mem_layOut_paths]
  have initial (package : String) :
      packagePath package ++ "/" ++ packageFileName = packagePath package ++ "/" ++ "__init__" ++ ".py" := by
    simp only [String.append_assoc]
    rfl
  constructor
  · rintro ⟨source, member, same | ⟨package, onTheWay, same⟩⟩
    · exact ⟨source.package, source.moduleName, ⟨source, member, .inl ⟨rfl, rfl⟩⟩, (String.append_left_inj _).mp same⟩
    · rw [initial] at same
      exact ⟨package, "__init__", ⟨source, member, .inr ⟨onTheWay, rfl⟩⟩, (String.append_left_inj _).mp same⟩
  · rintro ⟨package, name, ⟨source, member, ⟨rfl, rfl⟩ | ⟨onTheWay, rfl⟩⟩, rfl⟩
    · exact ⟨source, member, .inl rfl⟩
    · exact ⟨source, member, .inr ⟨package, onTheWay, (initial package).symm⟩⟩

theorem mem_paths_package {path : String} :
    path ++ "/__init__.py" ∈ (layOut (moduleSources api settings)).map Prod.fst ↔
      ∃ source ∈ moduleSources api settings, ∃ package, OnTheWay package source.package ∧
        path = packagePath package := by
  rw [mem_layOut_paths]
  have initial : path ++ "/__init__.py" = path ++ "/" ++ packageFileName := by
    rw [String.append_assoc]
    rfl
  constructor
  · rintro ⟨source, member, same | ⟨package, onTheWay, same⟩⟩
    · rw [initial, ModuleSource.path_eq] at same
      have split := congrArg splitSlashes same
      rw [splitSlashes_append, splitSlashes_of_entry isEntryName_packageFileName, splitSlashes_append,
        splitSlashes_of_entry (ModuleSource.isEntryName member).2] at split
      have sameName := List.singleton_inj.mp (List.append_inj' split rfl).2
      exact absurd sameName.symm (fileName_ne member)
    · rw [← packageFile_path] at same
      exact ⟨source, member, package, onTheWay, (String.append_left_inj _).mp same⟩
  · rintro ⟨source, member, package, onTheWay, rfl⟩
    exact ⟨source, member, .inr ⟨package, onTheWay, packageFile_path package⟩⟩

/-- A module and a package have one name. -/
def IsShadowed (files : Files) : Prop :=
  ∃ path, path ++ ".py" ∈ files.map Prod.fst ∧ path ++ "/__init__.py" ∈ files.map Prod.fst

/-- One of the two packages lies in a directory that is called like the module of the other, or some package in a
directory that is called like the file of a package. -/
def Nests (settings : Settings) (api : Api) : Prop :=
  (api.clientProjections ≠ [] ∧ api.queryTypes ≠ [] ∧
      (OnTheWay (settings.clientPart.text ++ "." ++ projectionsModule) settings.queriesPart.text ∨
        OnTheWay (settings.queriesPart.text ++ "." ++ queriesModule) settings.clientPart.text)) ∨
    ∃ source ∈ moduleSources api settings, "__init__" ∈ (Text.pieces '.' source.package).tail

theorem IsModule.undotted {package name : String} (isModule : IsModule (moduleSources api settings) package name) :
    '.' ∉ name.toList := by
  rcases isModule with ⟨source, member, ⟨_, rfl⟩ | ⟨_, rfl⟩⟩
  · rcases mem_moduleSources.mp member with ⟨_, rfl⟩ | ⟨_, rfl⟩
    · exact (by decide : '.' ∉ projectionsModule.toList)
    · exact (by decide : '.' ∉ queriesModule.toList)
  · decide

theorem IsModule.unslashed {package name : String} (isModule : IsModule (moduleSources api settings) package name) :
    '/' ∉ (package ++ "." ++ name).toList := by
  have inParts : '/' ∉ package.toList ∧ '/' ∉ name.toList := by
    rcases isModule with ⟨source, member, ⟨rfl, rfl⟩ | ⟨onTheWay, rfl⟩⟩
    · refine ⟨slash_not_mem (ModuleSource.isEntryName member).1, ?_⟩
      rcases mem_moduleSources.mp member with ⟨_, rfl⟩ | ⟨_, rfl⟩
      · exact (by decide : '/' ∉ projectionsModule.toList)
      · exact (by decide : '/' ∉ queriesModule.toList)
    · exact ⟨slash_not_mem (pieces_of_onTheWay member onTheWay), by decide⟩
  simp [inParts]

/-- A module is shadowed where a package on the way goes on from it. -/
theorem isShadowed_iff_onTheWay (rendered : render settings headers templates api ε fill = .ok files) :
    IsShadowed files ↔ ∃ package name, IsModule (moduleSources api settings) package name ∧
      ∃ source ∈ moduleSources api settings, OnTheWay (package ++ "." ++ name) source.package := by
  simp only [IsShadowed, paths_of_render rendered, mem_paths_module, mem_paths_package]
  constructor
  · rintro ⟨path, ⟨package, name, isModule, rfl⟩, source, member, other, onTheWay, same⟩
    refine ⟨package, name, isModule, source, member, ?_⟩
    rw [← Settings.packagePath_append _ _ isModule.undotted] at same
    rwa [packagePath_injective isModule.unslashed (slash_not_mem (pieces_of_onTheWay member onTheWay)) same]
  · rintro ⟨package, name, isModule, source, member, onTheWay⟩
    exact ⟨_, ⟨package, name, isModule, rfl⟩, source, member, _, onTheWay,
      (Settings.packagePath_append _ _ isModule.undotted).symm⟩

theorem not_onTheWay_below (package name : String) : ¬ OnTheWay (package ++ "." ++ name) package := by
  rw [onTheWay_iff_pieces, Text.pieces_append rfl]
  intro isPrefix
  have positive := List.length_pos_iff.mpr (Text.pieces_ne_nil '.' name)
  have bound := isPrefix.length_le
  rw [List.length_append] at bound
  omega

/-- A part behind the first one is the end of a package on the way. -/
theorem mem_tail_iff_onTheWay {part target : String} (undotted : '.' ∉ part.toList) :
    part ∈ (Text.pieces '.' target).tail ↔ ∃ package, OnTheWay (package ++ "." ++ part) target := by
  have dotted : ".".toList = ['.'] := rfl
  have alone : Text.pieces '.' part = [part] := by
    rw [Text.pieces, Text.splitAt_of_not_mem undotted, List.map_singleton, String.ofList_toList]
  simp only [onTheWay_iff_pieces, Text.pieces_append dotted, alone]
  constructor
  · intro member
    obtain ⟨front, back, split⟩ := List.append_of_mem member
    obtain ⟨first, others, whole⟩ := List.exists_cons_of_ne_nil (Text.pieces_ne_nil '.' target)
    rw [whole, List.tail_cons] at split
    refine ⟨".".intercalate (first :: front), back, ?_⟩
    have areParts : ∀ piece ∈ first :: front, '.' ∉ piece.toList := by
      intro piece inFront
      have inTarget : piece ∈ Text.pieces '.' target := by
        rw [whole, split, ← List.cons_append]
        exact List.mem_append_left _ inFront
      exact Text.not_mem_of_mem_pieces inTarget
    rw [Text.pieces_intercalate dotted (List.cons_ne_nil _ _) areParts, whole, split]
    simp
  · rintro ⟨package, rest, split⟩
    obtain ⟨first, others, whole⟩ := List.exists_cons_of_ne_nil (Text.pieces_ne_nil '.' package)
    rw [← split, whole]
    simp

/-- **A module is shadowed exactly where one of the two packages nests in the other one below the name of its module**,
or where a package is called like the file that makes a package of a directory. Then a path is that of a module and of a
directory with a package in it, whatever headers and templates the files are written with. Names of packages are checked
one at a time, so nothing keeps such a pair from being written. -/
theorem isShadowed_iff_nests (rendered : render settings headers templates api ε fill = .ok files) :
    IsShadowed files ↔ Nests settings api := by
  have undotted : '.' ∉ "__init__".toList := by decide
  simp only [isShadowed_iff_onTheWay rendered, Nests, mem_tail_iff_onTheWay undotted]
  have ofClient : OnTheWay (settings.clientPackage ++ "." ++ projectionsModule) settings.queriesPackage ↔
      OnTheWay (settings.clientPart.text ++ "." ++ projectionsModule) settings.queriesPart.text := onTheWay_append
  have ofQueries : OnTheWay (settings.queriesPackage ++ "." ++ queriesModule) settings.clientPackage ↔
      OnTheWay (settings.queriesPart.text ++ "." ++ queriesModule) settings.clientPart.text := onTheWay_append
  constructor
  · rintro ⟨package, name, ⟨source, member, ⟨rfl, rfl⟩ | ⟨_, rfl⟩⟩, target, listed, onTheWay⟩
    · left
      rcases mem_moduleSources.mp member with ⟨client, rfl⟩ | ⟨queries, rfl⟩ <;>
        rcases mem_moduleSources.mp listed with ⟨alsoClient, rfl⟩ | ⟨alsoQueries, rfl⟩
      · exact absurd onTheWay (not_onTheWay_below _ _)
      · exact ⟨client, alsoQueries, .inl (ofClient.mp onTheWay)⟩
      · exact ⟨alsoClient, queries, .inr (ofQueries.mp onTheWay)⟩
      · exact absurd onTheWay (not_onTheWay_below _ _)
    · exact .inr ⟨target, listed, package, onTheWay⟩
  · rintro (⟨client, queries, onTheWay | onTheWay⟩ | ⟨source, member, package, onTheWay⟩)
    · exact ⟨_, _, ⟨_, mem_moduleSources.mpr (.inl ⟨client, rfl⟩), .inl ⟨rfl, rfl⟩⟩, _,
        mem_moduleSources.mpr (.inr ⟨queries, rfl⟩), ofClient.mpr onTheWay⟩
    · exact ⟨_, _, ⟨_, mem_moduleSources.mpr (.inr ⟨queries, rfl⟩), .inl ⟨rfl, rfl⟩⟩, _,
        mem_moduleSources.mpr (.inl ⟨client, rfl⟩), ofQueries.mpr onTheWay⟩
    · exact ⟨package, "__init__", ⟨source, member, .inr ⟨onTheWay.of_append, rfl⟩⟩, source, member, onTheWay⟩

end Shadowing

end Target

/-! Entry points in a package with the name of the module of the client. -/

open Target

namespace Projection.Nested

open Sdl Schema

def text : String := "type Query \x7b t: T \x7d type T \x7b x: Int \x7d"

theorem isName_type : isName "T".toList = true := by decide

theorem isName_number : isName "x".toList = true := by decide

theorem isName_int : isName "Int".toList = true := by decide

theorem isName_entry : isName "t".toList = true := by decide

def thing : Projection.Target where
  fst := 1
  snd.kind := .object
  snd.name := ⟨"T", isName_type⟩
  snd.fields := [{ name := ⟨"x", isName_number⟩, type := ⟨[], ⟨"Int", isName_int⟩⟩ }]

def query : TypeDefinition where
  kind := .object
  name := customaryQuery
  fields := [{ name := ⟨"t", isName_entry⟩, type := ⟨[], thing.2.name⟩ }]

def schema : Document := [.type query, .type thing.2]

/-- Settings that nest the package of the entry points below the module of the client. -/
def inside : Settings where
  queriesPart := ⟨"client.projections", by decide +kernel⟩

def context (settings : Settings) : Context := ⟨settings, schema⟩

def api (settings : Settings) : Api where
  queryTypes := [(context settings).rootProjectionOf 0 query]
  clientProjections := [(context settings).projection thing]

theorem read_text : (Document.read text).toOption = some schema := by decide +kernel

variable {settings : Settings}

theorem generated (listed : settings ∈ [{}, inside]) :
    (Generation.run settings [] fun _ => ⟨.ok schema, "", []⟩).outcome = .ok (api settings) := by
  have wanted : ∀ settings ∈ [{}, inside], settings.generatesClient = true := by decide
  have ofQuery : ∀ settings ∈ [{}, inside], (context settings).rootTargets 0 query = [thing] := by decide
  have ofThing : ∀ settings ∈ [{}, inside], (context settings).targets thing = [] := by decide
  have root : findRoot? schema .query = some (0, query) := by decide
  have descent : (context settings).Descent ((context settings).rootTargets 0 query) [] [thing] [thing.entry] none := by
    rw [ofQuery settings listed]
    exact .alone rfl (by simp [ofThing settings listed]) .done
  exact Generation.outcome_of_descent (wanted settings listed) root descent

theorem rendered (listed : settings ∈ [{}, inside]) : ∃ files, render settings [] [] (api settings) = .ok files := by
  have importable : ∀ settings ∈ [({} : Settings), inside],
      ∀ package ∈ [settings.packageName, settings.clientPart], IsImportable package.text := by decide +kernel
  have documentable : ∀ document, Except.ok schema = (.ok document : Except LoadError Document) →
      Schema.Documentable document := by
    rintro document loaded
    obtain rfl : schema = document := Except.ok.inj loaded
    exact Schema.Documentable.of_entries (by decide +kernel)
  have unique : ∀ settings ∈ [{}, inside], checkUnique [] (moduleSources (api settings) settings) = .ok () := by
    decide +kernel
  exact ⟨_, render_of_readCode (unique settings listed) (Generation.layOut_reads (generated listed)
    (importable settings listed) documentable (List.forall_mem_nil _))⟩

theorem isFilePath_client : IsFilePath {} (api {}) "generated/client/projections.py" := by
  have path : packagePath ({} : Settings).clientPackage ++ "/projections.py" = "generated/client/projections.py" := by
    decide +kernel
  exact path ▸ .projections (List.cons_ne_nil _ _)

/-- Side by side the packages do not get in each other's way. -/
theorem side_by_side : ∃ files, render {} [] [] (api {}) = .ok files ∧ ¬ IsShadowed files := by
  obtain ⟨files, done⟩ := rendered (List.mem_cons_self : ({} : Settings) ∈ [{}, inside])
  refine ⟨files, done, ?_⟩
  rw [isShadowed_iff_nests done, Nests, onTheWay_iff_pieces, onTheWay_iff_pieces]
  rintro (⟨_, _, onTheWay⟩ | initial)
  · exact absurd onTheWay (by decide +kernel)
  · exact absurd initial (by decide +kernel)

/-- Nested, they do: the schema is accepted, a run has a result, and what it is written as holds a package in the place
of a module. -/
theorem module_shadowed :
    (Document.read text).toOption = some schema ∧
      (Generation.run inside [] fun _ => ⟨.ok schema, "", []⟩).outcome = .ok (api inside) ∧
      ∃ files, render inside [] [] (api inside) = .ok files ∧
        "generated/client/projections.py" ∈ files.map Prod.fst ∧
        "generated/client/projections/__init__.py" ∈ files.map Prod.fst := by
  have listed : inside ∈ [{}, inside] := List.mem_cons_of_mem _ List.mem_cons_self
  obtain ⟨files, done⟩ := rendered listed
  have client := @mem_moduleSources inside (api inside) _ |>.mpr (.inl ⟨List.cons_ne_nil _ _, rfl⟩)
  have entries := @mem_moduleSources inside (api inside) _ |>.mpr (.inr ⟨List.cons_ne_nil _ _, rfl⟩)
  refine ⟨read_text, generated listed, files, done, ?_⟩
  rw [paths_of_render done, mem_layOut_paths, mem_layOut_paths]
  exact ⟨⟨_, client, .inl (by decide +kernel)⟩,
    ⟨_, entries, .inr ⟨"generated.client.projections", .inl (by decide +kernel), by decide +kernel⟩⟩⟩

end Projection.Nested

end SelectionGen
