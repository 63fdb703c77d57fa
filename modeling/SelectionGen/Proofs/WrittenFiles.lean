import SelectionGen.Proofs.FilePaths
import SelectionGen.Target.Package

/-! Writing files. Nothing is written before all files are complete, so a fault of the files leaves the tree as it was.
Files that are written leave, in each place, the last text whose path leads there, and nothing else changes; below a
directory without links in it every file stands at the place that its path says. -/
namespace SelectionGen

open Files

namespace Target

variable {ε : Type} {fill : TemplateRule ε} {settings : Settings} {headers : List String} {templates files : Files}
  {api : Api} {base directory : String} {tree before after : Tree} {written : List String}

/-- A path below a directory leads to a place. -/
def LeadsTo (tree : Tree) (directory path : String) (place : Files.Place) : Prop :=
  tree.placeOf false (join directory path) = .ok place

/-- Files have been saved below a directory: each path leads to a place, the last file whose path leads to a place is
what the place holds, and where no path leads everything is as it was. -/
structure Saved (directory : String) (files : Files) (before after : Tree) : Prop extends
    Tree.Grows before after where
  leads : ∀ file ∈ files, ∃ place, LeadsTo after directory file.1 place
  last : ∀ front file behind place, files = front ++ file :: behind → LeadsTo after directory file.1 place →
    (∀ other ∈ behind, ¬ LeadsTo after directory other.1 place) → after.file? place = some file.2.toUTF8
  others : ∀ place, (∀ file ∈ files, ¬ LeadsTo after directory file.1 place) → after.file? place = before.file? place

/-- A file that is saved first stays what its place holds, unless a later path leads there. -/
theorem Saved.cons {path text : String} {rest : Files} {between : Tree}
    (stored : before.save (join directory path) text.toUTF8 = .ok between)
    (saved : Saved directory rest between after) : Saved directory ((path, text) :: rest) before after := by
  obtain ⟨grows, place, leadsBetween, held⟩ := Tree.save_ok stored
  have leadsHere : LeadsTo after directory path place := saved.toGrows.placeOf leadsBetween
  have only {other : Files.Place} (leads : LeadsTo after directory path other) : other = place :=
    Except.ok.inj (leads.symm.trans leadsHere)
  refine ⟨grows.trans saved.toGrows, List.forall_mem_cons.mpr ⟨⟨place, leadsHere⟩, saved.leads⟩, ?_, ?_⟩
  · intro front file behind other whole leads none
    rcases List.cons_eq_append_iff.mp whole with ⟨rfl, same⟩ | ⟨more, rfl, same⟩
    · obtain ⟨rfl, rfl⟩ := List.cons.inj same
      obtain rfl := only leads
      rw [saved.others other none, held, if_pos rfl]
    · exact saved.last more file behind other same leads none
  · intro other none
    obtain ⟨notHere, notBehind⟩ := List.forall_mem_cons.mp none
    rw [saved.others other notBehind, held, if_neg]
    rintro rfl
    exact notHere leadsHere

/-- However far writing comes, the first of the files are saved. -/
theorem saved_of_saveAll (base directory : String) (files : Files) (tree : Tree) :
    ∃ front, front <+: files ∧ Saved directory front tree (saveAll base directory files tree).tree ∧
      ∀ written, (saveAll base directory files tree).outcome = .ok written →
        front = files ∧ written = files.map fun file => join base file.1 := by
  induction files generalizing tree with
  | nil =>
    refine ⟨[], List.prefix_rfl, ⟨.refl tree, by simp, by simp, fun _ _ => rfl⟩, ?_⟩
    rintro written ⟨⟩
    exact ⟨rfl, rfl⟩
  | cons file rest ih =>
    obtain ⟨path, text⟩ := file
    rw [saveAll]
    cases stored : tree.save (join directory path) text.toUTF8 with
    | error error =>
      refine ⟨[], List.nil_prefix, ⟨.refl tree, by simp, by simp, fun _ _ => rfl⟩, ?_⟩
      rintro written ⟨⟩
    | ok between =>
      obtain ⟨front, isFront, saved, all⟩ := ih between
      refine ⟨(path, text) :: front, List.cons_prefix_cons.mpr ⟨rfl, isFront⟩, .cons stored saved, ?_⟩
      intro written done
      cases behind : (saveAll base directory rest between).outcome with
      | error error =>
        simp only [behind] at done
        cases done
      | ok others =>
        simp only [behind] at done
        cases done
        obtain ⟨rfl, rfl⟩ := all others behind
        exact ⟨rfl, rfl⟩

/-- Each file stands in a directory where its path says, and nothing else of a tree has changed. -/
structure SavedAt (home : Files.Place) (files : Files) (before after : Tree) : Prop where
  holds : ∀ file ∈ files, after.file? (home ++ splitSlashes file.1) = some file.2.toUTF8
  others : ∀ place, (∀ file ∈ files, place ≠ home ++ splitSlashes file.1) → after.file? place = before.file? place

/-- Where no link lies below the directory, files that were saved stand where their paths say, each with its own
text. -/
theorem Saved.savedAt (saved : Saved directory files before after)
    (areEntries : ∀ file ∈ files, ∀ name ∈ splitSlashes file.1, IsEntryName name)
    (distinct : (files.map Prod.fst).Nodup) {home : Files.Place} (leadsHome : after.placeOf false directory = .ok home)
    (unlinked : ∀ link ∈ before.links, home <+: link.1 → link.1 = home) : SavedAt home files before after := by
  have named := (Tree.placeOf_eq_ok_iff.mp leadsHome).1
  have places {file : String × String} {place : Files.Place} (member : file ∈ files)
      (leads : LeadsTo after directory file.1 place) : place = home ++ splitSlashes file.1 := by
    obtain ⟨reached, fewer, leadsReached, below⟩ := Tree.leads_of_join named leads
    obtain rfl : home = reached := Except.ok.inj (leadsHome.symm.trans leadsReached)
    exact below.eq_append (areEntries file member) (saved.links.symm ▸ unlinked)
  constructor
  · intro file member
    obtain ⟨front, behind, split⟩ := List.append_of_mem member
    obtain ⟨place, leads⟩ := saved.leads file member
    obtain rfl := places member leads
    refine saved.last front file behind _ split leads fun other inBehind leadsToo => ?_
    have samePath : file.1 = other.1 := by
      refine splitSlashes_injective (List.append_cancel_left (places ?_ leadsToo))
      rw [split]
      exact List.mem_append_right _ (List.mem_cons_of_mem _ inBehind)
    rw [split, List.map_append, List.map_cons] at distinct
    have fresh := (List.nodup_cons.mp distinct.of_append_right).1
    exact fresh (samePath ▸ List.mem_map_of_mem inBehind)
  · intro place apart
    exact saved.others place fun file member leads => apart file member (places member leads)

/-- What is written below a directory that has a name is written where that name leads. -/
theorem Saved.exists_home (saved : Saved directory files before after) (named : directory ≠ "") (isSome : files ≠ []) :
    ∃ home, after.placeOf false directory = .ok home := by
  obtain ⟨file, rest, rfl⟩ := List.exists_cons_of_ne_nil isSome
  obtain ⟨place, leads⟩ := saved.leads file List.mem_cons_self
  obtain ⟨home, _, leadsHome, _⟩ := Tree.leads_of_join named leads
  exact ⟨home, leadsHome⟩

/-- The files of modules: each module with the text that is written of it, and the files that make packages of all
directories on the way to them. -/
inductive LaidOut (templates : Files) (fill : TemplateRule ε) (sources : List ModuleSource) : String × String → Prop
  | module {source : ModuleSource} {text : String} (member : source ∈ sources)
    (written : source.written templates fill = .ok text) : LaidOut templates fill sources (source.path, text)
  | package {source : ModuleSource} {package : String} (member : source ∈ sources)
    (onTheWay : OnTheWay package source.package) : LaidOut templates fill sources (packageFile sources package)

theorem mem_arrange_iff_laidOut {modules : Files} {sources : List ModuleSource} {file : String × String}
    (each : List.Forall₂ (fun source file => source.path = file.1 ∧ source.written templates fill = .ok file.2)
      sources modules) : file ∈ arrange modules sources ↔ LaidOut templates fill sources file := by
  rw [mem_arrange]
  constructor
  · rintro (inModules | ⟨source, member, package, onTheWay, rfl⟩)
    · obtain ⟨source, member, path, written⟩ := exists_left_of_mem each inModules
      obtain ⟨_, text⟩ := file
      obtain rfl := path
      exact .module member written
    · exact .package member (mem_packagesTo.mp onTheWay)
  · intro laidOut
    cases laidOut with
    | @module source text member written =>
      obtain ⟨⟨path, alsoText⟩, inModules, same, alsoWritten⟩ := exists_left_of_mem each.flip member
      obtain rfl : source.path = path := same
      obtain rfl : text = alsoText := Except.ok.inj (written.symm.trans alsoWritten)
      exact .inl inModules
    | package member onTheWay => exact .inr ⟨_, member, _, mem_packagesTo.mpr onTheWay, rfl⟩

/-- Files are given out exactly where no class is there twice, no template fails and all of them are code. -/
theorem exists_render_iff : (∃ files, render settings headers templates api ε fill = .ok files) ↔
    ¬ RepeatsClass settings api ∧
      (∀ source ∈ moduleSources api settings, ∃ text, source.written templates fill = .ok text) ∧
      ∀ file, LaidOut templates fill (moduleSources api settings) file →
        ∃ code, readCode (withHeaders headers file.2) = .ok code := by
  constructor
  · rintro ⟨files, rendered⟩
    obtain ⟨modules, made, rfl, reads⟩ := arranged_of_render rendered
    obtain ⟨unique, written⟩ := exists_moduleFiles_iff.mp ⟨modules, made⟩
    have each := (moduleFiles_eq_ok_iff.mp made).2
    exact ⟨checkUnique_modules_iff.mp unique, written,
      fun _ laidOut => reads _ (List.mem_map_of_mem ((mem_arrange_iff_laidOut each).mpr laidOut))⟩
  · rintro ⟨unique, written, reads⟩
    obtain ⟨modules, made⟩ := exists_moduleFiles_iff.mpr ⟨checkUnique_modules_iff.mpr unique, written⟩
    have each := (moduleFiles_eq_ok_iff.mp made).2
    exact ⟨_, (render_of_moduleFiles made).trans (mapM_of_each fun file member =>
      finish_eq_ok_iff.mpr ⟨reads file ((mem_arrange_iff_laidOut each).mp member), rfl⟩)⟩

/-- Files are not given out where a class is there twice, a template fails or one of them, whichever, is no code. -/
theorem exists_render_error_iff : (∃ error, render settings headers templates api ε fill = .error error) ↔
    RepeatsClass settings api ∨
      (∃ source ∈ moduleSources api settings, ∃ fault, source.written templates fill = .error fault) ∨
      ∃ file, LaidOut templates fill (moduleSources api settings) file ∧ ∃ fault,
        readCode (withHeaders headers file.2) = .error fault := by
  have fails {α β : Type} (result : Except β α) : (∃ error, result = .error error) ↔ ¬ ∃ value, result = .ok value := by
    cases result <;> simp
  simp only [fails, exists_render_iff, not_and_or, not_not, not_forall, exists_prop]

theorem write_of_render (rendered : render settings headers templates api ε fill = .ok files) (base directory : String)
    (tree : Tree) : write settings headers templates api base directory tree ε fill
      = ⟨(saveAll base directory files tree).outcome.mapError .writing, (saveAll base directory files tree).tree⟩ := by
  rw [write, rendered]

theorem saved_of_write (rendered : render settings headers templates api ε fill = .ok files) (base directory : String)
    (tree : Tree) : ∃ front, front <+: files ∧
      Saved directory front tree (write settings headers templates api base directory tree ε fill).tree ∧
      ∀ written, (write settings headers templates api base directory tree ε fill).outcome = .ok written →
        front = files ∧ written = files.map fun file => join base file.1 := by
  rw [write_of_render rendered]
  obtain ⟨front, isFront, saved, all⟩ := saved_of_saveAll base directory files tree
  refine ⟨front, isFront, saved, fun written done => all written ?_⟩
  cases outcome : (saveAll base directory files tree).outcome with
  | ok listed => simpa [outcome, Except.mapError] using done
  | error error => simp [outcome, Except.mapError] at done

theorem ascending_of_render (rendered : render settings headers templates api ε fill = .ok files) :
    (files.map Prod.fst).Pairwise (· < ·) := by
  rw [paths_of_render rendered]
  exact layOut_paths_ascending

theorem savedAt_of_write (rendered : render settings headers templates api ε fill = .ok files) {front : Files}
    (isFront : front <+: files) (saved : Saved directory front before after) {home : Files.Place}
    (leadsHome : after.placeOf false directory = .ok home)
    (unlinked : ∀ link ∈ before.links, home <+: link.1 → link.1 = home) : SavedAt home front before after := by
  have paths := paths_of_render rendered
  refine saved.savedAt (fun file member => ?_) ?_ leadsHome unlinked
  · exact isEntryName_of_mem_layOut (paths ▸ List.mem_map_of_mem (isFront.subset member))
  · exact (paths ▸ layOut_paths_nodup : (files.map Prod.fst).Nodup).sublist (isFront.sublist.map _)

/-- **A fault of the files keeps all of them from being written.** Modules are written by a template, whatever it makes
of them, or as they are declared. Where a class is there twice, the template fails or a file, whichever it is, is no
code behind its headers, a fault of the files is reported and the tree is the very one that was there before. Where
writing succeeds, the files are those that are rendered, and their paths are given out in ascending order, below the
name of the directory. Every path then leads somewhere, and everything else in the tree is as it was. Where no link lies
below the directory, each file stands at the very place that its path says, with its own text; a place that links make
several paths lead to holds the text of the last of these files. -/
theorem write_all_or_nothing (settings : Settings) (headers : List String) (templates : Files) (api : Api) (ε : Type)
    (fill : TemplateRule ε) (base directory : String) (tree : Tree) :
    ((RepeatsClass settings api ∨
        (∃ source ∈ moduleSources api settings, ∃ fault, source.written templates fill = .error fault) ∨
        ∃ file, LaidOut templates fill (moduleSources api settings) file ∧ ∃ fault,
          readCode (withHeaders headers file.2) = .error fault) ↔
      ∃ error, render settings headers templates api ε fill = .error error ∧
        write settings headers templates api base directory tree ε fill = ⟨.error (.files error), tree⟩) ∧
    (∀ error, (write settings headers templates api base directory tree ε fill).outcome = .error (.files error) →
      (write settings headers templates api base directory tree ε fill).tree = tree) ∧
    ∀ written, (write settings headers templates api base directory tree ε fill).outcome = .ok written →
      ∃ files, render settings headers templates api ε fill = .ok files ∧ (files.map Prod.fst).Pairwise (· < ·) ∧
        written = files.map (fun file => join base file.1) ∧
        Saved directory files tree (write settings headers templates api base directory tree ε fill).tree ∧
        (directory ≠ "" → files ≠ [] → ∃ home,
          (write settings headers templates api base directory tree ε fill).tree.placeOf false directory = .ok home ∧
          ((∀ link ∈ tree.links, home <+: link.1 → link.1 = home) →
            SavedAt home files tree (write settings headers templates api base directory tree ε fill).tree)) := by
  have fails {error : RenderError ε} (failed : render settings headers templates api ε fill = .error error) :
      write settings headers templates api base directory tree ε fill = ⟨.error (.files error), tree⟩ := by
    rw [write, failed]
  refine ⟨?_, ?_, ?_⟩
  · rw [← exists_render_error_iff]
    exact exists_congr fun error => ⟨fun failed => ⟨failed, fails failed⟩, And.left⟩
  · intro error refused
    cases rendered : render settings headers templates api ε fill with
    | error _ => rw [fails rendered]
    | ok files =>
      -- What goes wrong while files are saved is not the fault of the files.
      rw [write_of_render rendered] at refused
      cases saved : (saveAll base directory files tree).outcome <;> simp [saved, Except.mapError] at refused
  · intro written done
    cases rendered : render settings headers templates api ε fill with
    | error _ =>
      rw [fails rendered] at done
      cases done
    | ok files =>
      obtain ⟨_, _, saved, all⟩ := saved_of_write rendered base directory tree
      obtain ⟨rfl, listed⟩ := all written done
      refine ⟨_, rfl, ascending_of_render rendered, listed, saved, fun named isSome => ?_⟩
      obtain ⟨home, leadsHome⟩ := saved.exists_home named isSome
      exact ⟨home, leadsHome, savedAt_of_write rendered List.prefix_rfl saved leadsHome⟩

theorem join_renderPlace {home : Files.Place} {path : String} (named : IsNamed home) :
    join (renderPlace home) path = renderPlace (home ++ splitSlashes path) := by
  have slashed : "/".toList = ['/'] := rfl
  have whole : "/".intercalate (splitSlashes path) = path := Text.intercalate_pieces slashed path
  by_cases top : home = []
  · subst top
    have ended : Text.endsWith "/" (renderPlace []) = true := rfl
    rw [join, if_pos (.inr ended), List.nil_append, renderPlace, renderPlace, whole]
    rfl
  · have isSome : renderPlace home ≠ "" := by simp [renderPlace]
    have unended : ¬ Text.endsWith "/" (renderPlace home) = true := by
      intro ended
      obtain ⟨front, last, split, unslashed⟩ := renderPlace_ends named top
      obtain ⟨others, alsoSplit⟩ := List.isSuffixOf_iff_suffix.mp ended
      exact unslashed (List.singleton_inj.mp (List.append_inj' (split.symm.trans alsoSplit.symm) rfl).2)
    have pathIsSome : splitSlashes path ≠ [] := Text.pieces_ne_nil '/' path
    rw [join, if_neg (by simp [isSome, unended]), renderPlace, renderPlace,
      String.intercalate_append_of_ne_nil top pathIsSome, whole]
    simp only [String.append_assoc]

/-- Files that nothing is in the way of, and none of which lies where another one needs a directory, are all saved. -/
theorem saveAll_done {home : Files.Place} (plain : tree.IsPlain) (named : IsNamed home)
    (admits : ∀ file ∈ files, tree.Admits (home ++ splitSlashes file.1))
    (apart : ∀ file ∈ files, ∀ other ∈ files, ¬ splitSlashes file.1 <+: (splitSlashes other.1).dropLast) :
    (saveAll base (renderPlace home) files tree).outcome = .ok (files.map fun file => join base file.1) := by
  induction files generalizing tree with
  | nil => rfl
  | cons file rest ih =>
    obtain ⟨path, text⟩ := file
    obtain ⟨admitsFirst, admitsRest⟩ := List.forall_mem_cons.mp admits
    obtain ⟨between, saved, only⟩ := plain.save admitsFirst text.toUTF8
    obtain ⟨grows, place, leads, held⟩ := Tree.save_ok saved
    obtain rfl := (grows.isPlain plain).eq_of_placeOf admitsFirst.toIsWritable leads
    -- What has been made is in the way of no other file.
    have stillAdmits : ∀ file ∈ rest, between.Admits (home ++ splitSlashes file.1) := by
      intro file member
      have admitted := admitsRest file member
      have isSome : splitSlashes file.1 ≠ [] := Text.pieces_ne_nil '/' file.1
      refine ⟨admitted.toIsWritable, fun above isPrefix => ?_, fun isDirectory => ?_⟩
      · rw [held, if_neg]
        · exact admitted.noFile above isPrefix
        · rintro rfl
          rw [List.dropLast_append_of_ne_nil isSome, List.prefix_append_right_inj] at isPrefix
          exact apart (path, text) List.mem_cons_self file (List.mem_cons_of_mem _ member) isPrefix
      · rcases only _ isDirectory with was | inside
        · exact admitted.noDirectory was
        · have pathIsSome : splitSlashes path ≠ [] := Text.pieces_ne_nil '/' path
          rw [List.dropLast_append_of_ne_nil pathIsSome, List.prefix_append_right_inj] at inside
          exact apart file (List.mem_cons_of_mem _ member) (path, text) List.mem_cons_self inside
    have behind := ih (grows.isPlain plain) stillAdmits fun file member other otherMember =>
      apart file (List.mem_cons_of_mem _ member) other (List.mem_cons_of_mem _ otherMember)
    rw [saveAll, join_renderPlace named, saved]
    simp only [behind]
    rfl

/-- **Where nothing is in the way, files are written wherever they are complete.** In a tree without links, in which
everything may be done, writing comes out as the files do: with their paths, or with the fault that they have. -/
theorem outcome_of_admits {home : Files.Place} (plain : tree.IsPlain) (named : IsNamed home)
    (admits : ∀ path, IsFilePath settings api path → tree.Admits (home ++ splitSlashes path)) :
    (write settings headers templates api base (renderPlace home) tree ε fill).outcome
      = ((render settings headers templates api ε fill).mapError .files).map fun files =>
          files.map fun file => join base file.1 := by
  rw [write]
  cases rendered : render settings headers templates api ε fill with
  | error error => rfl
  | ok files =>
    have paths := paths_of_render rendered
    have isPath {file : String × String} (member : file ∈ files) :
        file.1 ∈ (layOut (moduleSources api settings)).map Prod.fst := paths ▸ List.mem_map_of_mem member
    have saved := @saveAll_done files base tree home plain named
      (fun file member => admits _ (mem_layOut_paths_iff.mp (isPath member)))
      fun file member other otherMember => not_prefix_of_mem_layOut (isPath member) (isPath otherMember)
    simp only [saved]
    rfl

/-- **The files of an API are known by its settings.** Their paths come once each and in ascending order: a module for
each kind of classes that there are, and a file for each package on the way to one. No part of a path leads out of the
directory that it is read in. So however far writing comes, nothing outside of the directory changes, if no link lies
below it. The file of a package is the text that brings in the classes of the modules there, in their order and from the
very modules, and lists them, no name twice; between packages with modules it brings in and lists nothing. Of names that
can be defined, behind headers of comments, it is read as just that. -/
theorem files_exact (rendered : render settings headers templates api ε fill = .ok files) :
    (files.map Prod.fst).Pairwise (· < ·) ∧
    (∀ path, path ∈ files.map Prod.fst ↔ IsFilePath settings api path) ∧
    (∀ path ∈ files.map Prod.fst, ∀ name ∈ splitSlashes path, IsEntryName name) ∧
    (∀ base directory tree home,
      (write settings headers templates api base directory tree ε fill).tree.placeOf false directory = .ok home →
      (∀ link ∈ tree.links, home <+: link.1 → link.1 = home) →
      ∀ place, (write settings headers templates api base directory tree ε fill).tree.file? place ≠ tree.file? place →
        home <+: place) ∧
    ∀ source ∈ moduleSources api settings, ∀ package, OnTheWay package source.package →
      (packagePath package ++ "/__init__.py",
        withHeaders headers (exportText (packageModules settings api package))) ∈ files ∧
      ((packageModules settings api package).flatMap Prod.snd).Nodup ∧
      (∀ module ∈ packageModules settings api package,
        packagePath package ++ "/" ++ module.1 ++ ".py" ∈ files.map Prod.fst) ∧
      ((∀ projection ∈ api.projections, IsDefinable projection.name) → (∀ header ∈ headers, IsHeader header) →
        ∃ code, readCode (withHeaders headers (exportText (packageModules settings api package))) = .ok code ∧
          code.filterMap Statement.broughtIn?
            = (packageModules settings api package).map (fun module => (module.1, entriesOf module.2)) ∧
          code.filterMap Statement.exported?
            = if packageModules settings api package = [] then []
              else [(packageModules settings api package).flatMap Prod.snd]) := by
  have paths := paths_of_render rendered
  refine ⟨ascending_of_render rendered, fun _ => mem_paths_of_render rendered, ?_, ?_, ?_⟩
  · intro path member
    exact isEntryName_of_mem_layOut (paths ▸ member)
  · intro base directory tree home leadsHome unlinked place changed
    obtain ⟨front, isFront, saved, _⟩ := saved_of_write rendered base directory tree
    have savedAt := savedAt_of_write rendered isFront saved leadsHome unlinked
    by_contra outside
    refine changed (savedAt.others place fun file _ same => outside ?_)
    exact same ▸ List.prefix_append _ _
  · intro source member package onTheWay
    refine ⟨?_, ?_, ?_, fun definable areHeaders => ?_⟩
    · obtain ⟨modules, _, rfl, _⟩ := arranged_of_render rendered
      rw [← packageFile_text]
      exact List.mem_map_of_mem (packageFile_mem_arrange member onTheWay)
    · have unique := checkUnique_modules_iff.mpr (exists_render_iff.mp ⟨files, rendered⟩).1
      have nothing : ∀ package, (exportedNames package []).Nodup := fun _ => List.nodup_nil
      rw [← exportedNames_eq_flatMap]
      exact (checkUnique_eq_ok_iff nothing).mp unique package
    · rw [← packageModules_eq]
      intro module inPackage
      obtain ⟨other, listed, rfl⟩ := List.mem_map.mp inPackage
      obtain ⟨inSources, samePackage⟩ := List.mem_filter.mp listed
      rw [paths, mem_layOut_paths, ← beq_iff_eq.mp samePackage]
      exact ⟨other, inSources, .inl rfl⟩
    · rw [← packageFile_text]
      exact package_exports definable areHeaders package

end Target

open Target

/-- Two packages side by side, with a module in each and none in the package around them. -/
theorem Projection.Nested.files_side_by_side : ∃ files, render {} [] [] (api {}) = .ok files ∧
    "generated/client/projections.py" ∈ files.map Prod.fst ∧
    ("generated/client/__init__.py", exportText [("projections", ["TProjection"])]) ∈ files ∧
    ("generated/__init__.py", exportText []) ∈ files := by
  obtain ⟨files, done⟩ := rendered (List.mem_cons_self : ({} : Settings) ∈ [{}, inside])
  obtain ⟨_, paths, _, _, packages⟩ := files_exact done
  have client := @mem_moduleSources {} (api {}) _ |>.mpr (.inl ⟨List.cons_ne_nil _ _, rfl⟩)
  have ofClient := (packages _ client "generated.client" (.inl (by decide +kernel))).1
  have ofAll := (packages _ client "generated" (.inr ⟨"client", by decide +kernel⟩)).1
  have modules : packageModules {} (api {}) "generated.client" = [("projections", ["TProjection"])] := by
    decide +kernel
  have none : packageModules {} (api {}) "generated" = [] := by decide +kernel
  have clientPath : packagePath "generated.client" ++ "/__init__.py" = "generated/client/__init__.py" := by
    decide +kernel
  have allPath : packagePath "generated" ++ "/__init__.py" = "generated/__init__.py" := by decide +kernel
  rw [clientPath, modules] at ofClient
  rw [allPath, none] at ofAll
  exact ⟨files, done, (paths _).mpr isFilePath_client, ofClient, ofAll⟩

namespace Projection.Nested

open Grammar

/-- A template of one's own, which writes a comment and a line for each class. -/
def custom : Target.Files :=
  [(moduleTemplate, "# custom\n\x7b% for projection in projections %\x7d\x7b\x7b projection.name \x7d\x7d = None\n"
    ++ "\x7b% endfor %\x7d")]

/-- What it makes of classes with these names. -/
def customText (names : List String) : String :=
  String.ofList ("# custom".toList ++ '\n' :: names.flatMap fun name => name.toList ++ " = None\n".toList)

/-- What the markup of this template comes to. -/
def customRule : TemplateRule Empty := fun _ told => .ok (customText (told.projections.map Projection.name))

def namingLine (name : String) : List Part := [.word name, .blank, .sign .equals, .blank, .word "None"]

def naming (name : String) : Grammar.Shape := fun lines =>
  ⟨lines 0, .assignment [⟨lines 0, .name name⟩] ⟨lines 2, .constant .nothing⟩⟩

theorem takes_naming {name : String} (listed : name ∈ ["TProjection", "QueryProjection"]) :
    Takes 0 (lineKinds (namingLine name)) (naming name).Fits := by
  intro within lines rest room
  obtain ⟨token, within, rfl⟩ := List.exists_cons_of_length_pos room
  rcases List.mem_pair.mp listed with rfl | rfl <;> exact ⟨_, _, rfl, lines, rfl⟩

theorem reaches_naming (name : String) : Reaches 8 (naming name).Fits := by
  rintro cost (rfl | rfl) _ ⟨lines, rfl⟩ <;> simp [naming, Statement.depth, StatementForm.depthBelow, Expression.depth,
    ExpressionForm.depthBelow, listDepth, DepthCost.ofReading, DepthCost.ofTree]

theorem isLine_naming {name : String} (named : Sdl.isName name.toList = true) : IsLine (namingLine name) := by
  simp [namingLine, isLine_iff, Sdl.isNameStart, Sdl.isNameContinue, named]

theorem row_naming (name : String) : (Row.line 0 (namingLine name)).text = name.toList ++ " = None\n".toList := by
  simp [namingLine, Row.text, Part.text, Sign.text]

/-- What the template makes of classes is read, behind a line that says nothing. -/
theorem customText_reads {names : List String} (listed : ∀ name ∈ names, name ∈ ["TProjection", "QueryProjection"]) :
    ∃ code, readCode (customText names) = .ok code := by
  have named : ∀ name ∈ ["TProjection", "QueryProjection"], Sdl.isName name.toList = true := by decide
  have areLines : ∀ parts ∈ names.map namingLine, IsLine parts :=
    List.forall_mem_map.mpr fun name member => isLine_naming (named name (listed name member))
  have laid : Laid [] ((names.map namingLine).map (Row.line 0)) ((names.map namingLine).flatMap lineKinds) := by
    have behind := Laid.sequence areLines (rfl : Indentation.arrange ⟨0, 0⟩ [] = some ([], [])) (.done [])
    rwa [List.append_nil, List.map_nil, List.append_nil] at behind
  have text : (customText names).toList
      = "# custom".toList ++ '\n' :: ((names.map namingLine).map (Row.line 0)).flatMap Row.text := by
    refine String.toList_ofList.trans ?_
    simp only [List.flatMap_map, row_naming]
  have spells :
      Spells (names.map fun name => (lineKinds (namingLine name), (naming name).Fits)) (customText names) := by
    have kinds : (names.map fun name => (lineKinds (namingLine name), (naming name).Fits)).flatMap Prod.fst
        = (names.map namingLine).flatMap lineKinds := by
      simp [List.flatMap_map]
    constructor
    · rw [text]
      refine fun member => (List.mem_append.mp member).elim (by decide) fun inLines => ?_
      exact (List.mem_cons.mp inLines).elim (by decide) laid.null_not_mem
    · rw [text, kinds, Text.unifyLineEnds_append (by decide), Text.unifyLineEnds_cons (by decide)]
      have comment : isIdle "# custom".toList = true := by decide
      exact (Leads.idleLine comment (by decide)).scans laid.scans
  obtain ⟨code, read, _⟩ := spells.readCode
    (List.forall_mem_map.mpr fun name member => ⟨0, by simp [lineKinds], takes_naming (listed name member)⟩)
    (List.forall_mem_map.mpr fun name _ => (reaches_naming name).mono (by decide))
  exact ⟨code, read⟩

theorem written_custom (source : ModuleSource) :
    source.written custom customRule = .ok (customText source.classNames) := rfl

theorem rendered_custom : ∃ files, render {} [] custom (api {}) Empty customRule = .ok files := by
  have unique : checkUnique [] (moduleSources (api {}) {}) = .ok () := by decide +kernel
  have coherent := Generation.coherent_of_run (generated (List.mem_cons_self : ({} : Settings) ∈ [{}, inside]))
  refine exists_render_iff.mpr ⟨checkUnique_modules_iff.mp unique, fun source _ => ⟨_, written_custom source⟩,
    fun file laidOut => ?_⟩
  cases laidOut with
  | @module source text member written =>
    obtain rfl := Except.ok.inj ((written_custom source).symm.trans written)
    have names : ∀ source ∈ moduleSources (api {}) {}, ∀ name ∈ source.classNames,
        name ∈ ["TProjection", "QueryProjection"] := by decide +kernel
    exact customText_reads (names source member)
  | package member onTheWay =>
    obtain ⟨code, read, _⟩ := coherent.package_reads (List.forall_mem_nil _) _
    exact ⟨code, read⟩

theorem mem_of_rendered_custom {files : Target.Files}
    (done : render {} [] custom (api {}) Empty customRule = .ok files) :
    ("generated/client/projections.py", "# custom\nTProjection = None\n") ∈ files := by
  obtain ⟨modules, made, rfl, _⟩ := arranged_of_render done
  have client := @mem_moduleSources {} (api {}) _ |>.mpr (.inl ⟨List.cons_ne_nil _ _, rfl⟩)
  have laidOut := (mem_arrange_iff_laidOut (moduleFiles_eq_ok_iff.mp made).2).mpr (.module client (written_custom _))
  have path : packagePath ({} : Settings).clientPackage ++ "/" ++ projectionsModule ++ ".py"
      = "generated/client/projections.py" := by decide +kernel
  have text : customText ((api {}).clientProjections.map Projection.name) = "# custom\nTProjection = None\n" := by
    decide +kernel
  exact List.mem_map.mpr ⟨_, laidOut, Prod.ext path text⟩

theorem admits_empty {path : String} (isFile : IsFilePath {} (api {}) path) :
    Tree.Admits {} (["out"] ++ splitSlashes path) := by
  have listed : path ∈ (layOut (moduleSources (api {}) {})).map Prod.fst := mem_layOut_paths_iff.mpr isFile
  have member := (layOut_paths_perm _).mem_iff.mp listed
  have writable : ∀ path ∈ (moduleSources (api {}) {}).map ModuleSource.path
        ++ ((moduleSources (api {}) {}).flatMap fun source => packagesTo source.package).eraseDups.map
          (fun package => packagePath package ++ "/" ++ packageFileName),
      IsNamed (["out"] ++ splitSlashes path) ∧
        ¬ Tree.pathLimit < (renderPlace (["out"] ++ splitSlashes path)).utf8ByteSize := by decide +kernel
  obtain ⟨isNamed, short⟩ := writable path member
  exact Tree.admits_empty ⟨isNamed, short⟩ (by simp)

/-- Where there was nothing, what the template makes of the modules stands below the directory. -/
theorem written_side_by_side : ∃ files, render {} [] custom (api {}) Empty customRule = .ok files ∧
    ("generated/client/projections.py", "# custom\nTProjection = None\n") ∈ files ∧
    SavedAt ["out"] files {} (write {} [] custom (api {}) "out" "/out" {} Empty customRule).tree := by
  obtain ⟨files, done⟩ := rendered_custom
  have plain : Tree.IsPlain {} := ⟨rfl, rfl⟩
  have named : IsNamed ["out"] := by decide
  have written : (write {} [] custom (api {}) "out" "/out" {} Empty customRule).outcome = _ :=
    outcome_of_admits plain named fun _ => admits_empty
  rw [done] at written
  obtain ⟨_, _, success⟩ := write_all_or_nothing {} [] custom (api {}) Empty customRule "out" "/out" {}
  obtain ⟨others, alsoDone, _, _, saved, below⟩ := success _ written
  obtain rfl : files = others := Except.ok.inj (done.symm.trans alsoDone)
  have inFiles := mem_of_rendered_custom done
  obtain ⟨home, leadsHome, savedAt⟩ := below (by decide) (List.ne_nil_of_mem inFiles)
  obtain rfl : home = ["out"] := (saved.isPlain plain).eq_of_placeOf ⟨named, by decide⟩ leadsHome
  exact ⟨files, done, inFiles, savedAt (by rintro _ ⟨⟩)⟩

end Projection.Nested

end SelectionGen
