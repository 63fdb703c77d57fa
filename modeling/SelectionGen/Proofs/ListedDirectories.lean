import Mathlib.Logic.Basic
import SelectionGen.Archive.Unpack
import SelectionGen.Target.Package

/-! Directories that stay listed. Whatever is done to a tree, be it by unpacking archives or by writing files, takes no
directory off its list but removing one, which takes off what is below it and nothing else. -/
namespace SelectionGen

/-- What a computation gives, if it gives anything, is so. -/
def Yields {α ε : Type} (holds : α → Prop) (outcome : Except ε α) : Prop := ∀ value, outcome = .ok value → holds value

namespace Yields

variable {α β ε δ : Type} {holds : α → Prop} {outcome : Except ε α}

theorem ok {value : α} (isSo : holds value) : Yields holds (.ok value : Except ε α) := by
  rintro _ ⟨⟩
  exact isSo

theorem error {error : ε} : Yields holds (.error error : Except ε α) := by
  rintro _ ⟨⟩

theorem any : Yields (fun _ => True) outcome := fun _ _ => trivial

theorem mapError {f : ε → δ} (yields : Yields holds outcome) : Yields holds (outcome.mapError f) := by
  cases outcome with
  | ok value => exact ok (yields value rfl)
  | error error => exact Yields.error

theorem bind {next : α → Except ε β} {last : β → Prop} (first : Yields holds outcome)
    (behind : ∀ value, holds value → Yields last (next value)) : Yields last (outcome >>= next) := by
  cases outcome with
  | ok value => exact behind value (first value rfl)
  | error error => exact Yields.error

/-- What every step keeps is so in the end. -/
theorem foldlM {step : α → β → Except ε α} (each : ∀ value item, holds value → Yields holds (step value item))
    (items : List β) {start : α} (isSo : holds start) : Yields holds (items.foldlM step start) := by
  induction items generalizing start with
  | nil => exact ok isSo
  | cons item items ih => exact bind (each start item isSo) fun value kept => ih kept

end Yields

/-! Changing a tree does not take a directory off its list. -/
namespace Files.Tree

variable {before between after : Tree}

/-- Every directory that one tree lists is listed by another one. -/
def Lists (before after : Tree) : Prop := before.directories ⊆ after.directories

namespace Lists

theorem refl (tree : Tree) : Lists tree tree := List.Subset.refl _

theorem trans (first : Lists before between) (second : Lists between after) : Lists before after :=
  List.Subset.trans first second

theorem yields {ε : Type} {outcome : Except ε Tree} (first : Lists before between)
    (second : Yields (Lists between) outcome) :
    Yields (Lists before) outcome := fun after done => first.trans (second after done)

variable (tree : Tree) (path : String)

theorem addDirectory (place : Place) : Lists tree (tree.addDirectory place) := List.subset_append_left ..

theorem write (place : Place) (content : ByteArray) : Lists tree (tree.write place content) := by
  unfold Tree.write
  split <;> exact List.Subset.refl _

theorem limitPath (access : Access) : Lists tree (tree.limitPath path access) := by
  unfold Tree.limitPath
  split
  · dsimp only
    split <;> exact List.Subset.refl _
  · exact refl tree

/-- What is no directory has none below it. -/
theorem remove {place : Place} (noDirectory : ¬ tree.isDirectory place = true) : Lists tree (tree.remove place) := by
  intro directory listed
  refine List.mem_filter.mpr ⟨listed, ?_⟩
  cases above : place.isPrefixOf directory with
  | false => rfl
  | true =>
    have isDirectory : tree.isDirectory place = true := by
      have some : tree.directories.any (fun directory => place.isPrefixOf directory) = true :=
        List.any_eq_true.mpr ⟨directory, listed, above⟩
      simp [Tree.isDirectory, some]
    exact absurd isDirectory noDirectory

theorem makeDirectory : Yields (Lists tree) (tree.makeDirectory path) :=
  .bind .any fun _ _ => .ok (addDirectory ..)

theorem makeDirectoryUnless (mayExist : Bool) : Yields (Lists tree) (tree.makeDirectoryUnless mayExist path) := by
  unfold Tree.makeDirectoryUnless
  split
  · rename_i after made
    exact .ok (makeDirectory tree path after made)
  · split
    · exact .ok (refl tree)
    · exact .error

theorem makeDirectoriesUpTo (mayExist : Bool) (bound : Nat) :
    Yields (Lists tree) (Tree.makeDirectoriesUpTo mayExist bound tree path) := by
  induction bound generalizing tree path with
  | zero => exact makeDirectoryUnless tree path mayExist
  | succ bound ih =>
    rw [Tree.makeDirectoriesUpTo]
    split
    · exact makeDirectoryUnless tree path mayExist
    · have last (above : Tree) (listed : Lists tree above) : Yields (Lists tree)
          (if lastPart path = "." then pure above else above.makeDirectoryUnless mayExist path) := by
        split
        · exact .ok listed
        · exact listed.yields (makeDirectoryUnless above path mayExist)
      dsimp only
      split
      · rename_i above made
        exact last above (ih tree _ above made)
      · split
        · exact last tree (refl tree)
        · exact .error

theorem ensureParent : Yields (Lists tree) (tree.ensureParent path) := by
  unfold Tree.ensureParent
  dsimp only
  split
  · exact .ok (refl tree)
  · exact makeDirectoriesUpTo tree _ false _

theorem writeFile (content : ByteArray) : Yields (Lists tree) (tree.writeFile path content) :=
  .bind .any fun _ _ => .ok (write ..)

theorem save (content : ByteArray) : Yields (Lists tree) (tree.save path content) :=
  .bind (makeDirectoriesUpTo tree _ true _) fun between listed => listed.yields (writeFile between path content)

theorem unlink : Yields (Lists tree) (tree.unlink path) := by
  refine .bind .any fun place _ => ?_
  split
  · exact .error
  · rename_i noDirectory
    split
    · exact .error
    · split
      · exact .error
      · exact .ok (remove tree noDirectory)

theorem makeLink (target : String) : Yields (Lists tree) (tree.makeLink path target) := by
  unfold Tree.makeLink
  split
  · exact .error
  · exact .bind .any fun _ _ => .ok (List.Subset.refl _)

theorem duplicate (source : String) : Yields (Lists tree) (tree.duplicate source path) := by
  refine .bind .any fun from_ _ => .bind .any fun place _ => ?_
  split
  · exact .ok (List.Subset.refl _)
  · exact .ok (write tree place _)
  · exact .error

end Lists

/-! What is there when something was removed. -/

variable {tree : Tree} {place other : Place}

theorem isFile_iff : tree.isFile place = true ↔ ∃ file ∈ tree.files, place = file.1 := by
  rw [isFile, file?, ← not_iff_not, Bool.not_eq_true, Option.isSome_eq_false_iff, Option.isNone_iff_eq_none,
    List.lookup_eq_none_iff]
  simp only [bne_iff_ne, not_exists, not_and, ne_eq]

/-- Something is at the top, where a directory is listed, where a file is, and above all these and above links. -/
theorem isPresent_iff : tree.isPresent place = true ↔
    place = [] ∨ (∃ directory ∈ tree.directories, place <+: directory) ∨ (∃ file ∈ tree.files, place <+: file.1) ∨
      ∃ link ∈ tree.links, place <+: link.1 ∧ place ≠ link.1 := by
  simp only [isPresent, Bool.or_eq_true, isFile_iff, isDirectory, List.isEmpty_iff, List.any_eq_true, Bool.and_eq_true,
    bne_iff_ne, List.isPrefixOf_iff_prefix]
  constructor
  · rintro (⟨file, member, rfl⟩ | ((top | listed) | ⟨file, member, above, -⟩) | linked)
    · exact .inr (.inr (.inl ⟨file, member, List.prefix_refl _⟩))
    · exact .inl top
    · exact .inr (.inl listed)
    · exact .inr (.inr (.inl ⟨file, member, above⟩))
    · exact .inr (.inr (.inr linked))
  · rintro (top | listed | ⟨file, member, above⟩ | linked)
    · exact .inr (.inl (.inl (.inl top)))
    · exact .inr (.inl (.inl (.inr listed)))
    · by_cases same : place = file.1
      · exact .inl ⟨file, member, same⟩
      · exact .inr (.inl (.inr ⟨file, member, above, same⟩))
    · exact .inr (.inr linked)

theorem isPresent_of_listed (listed : place ∈ tree.directories) : tree.isPresent place = true :=
  isPresent_iff.mpr (.inr (.inl ⟨place, listed, List.prefix_refl place⟩))

/-- Nothing is left at a place that was removed. -/
theorem isPresent_remove (below : place ≠ []) : (tree.remove place).isPresent place = false := by
  have outside {entry : Place} (kept : (!place.isPrefixOf entry) = true) : ¬ place <+: entry := by
    rwa [Bool.not_eq_true', ← Bool.not_eq_true, List.isPrefixOf_iff_prefix] at kept
  rw [← Bool.not_eq_true, isPresent_iff]
  rintro (top | ⟨directory, member, above⟩ | ⟨file, member, above⟩ | ⟨link, member, above, -⟩)
  · exact below top
  · exact outside (List.mem_filter.mp member).2 above
  · exact outside (List.mem_filter.mp member).2 above
  · exact outside (List.mem_filter.mp member).2 above

/-- Removing a place brings nothing about. -/
theorem isPresent_of_remove (present : (tree.remove place).isPresent other = true) : tree.isPresent other = true := by
  rw [isPresent_iff] at present ⊢
  refine present.imp_right (Or.imp ?_ (Or.imp ?_ ?_))
  all_goals
    rintro ⟨entry, member, above⟩
    exact ⟨entry, (List.mem_filter.mp member).1, above⟩

theorem listed_remove (listed : other ∈ tree.directories) (outside : ¬ place <+: other) :
    other ∈ (tree.remove place).directories := by
  refine List.mem_filter.mpr ⟨listed, ?_⟩
  simpa only [Bool.not_eq_true', ← Bool.not_eq_true, List.isPrefixOf_iff_prefix] using outside

theorem eq_remove_of_removeAll {after : Tree} (removed : tree.removeAll place = .ok after) :
    after = tree.remove place := by
  unfold removeAll at removed
  dsimp only at removed
  split at removed
  · cases removed
  · split at removed
    · cases removed
    · exact (Except.ok.inj removed).symm

end Files.Tree

/-! Unpacking does not either. -/
namespace Archive

open Files

theorem lists_settle (told : Description) (momentFirst : Bool) (path : String) (tree : Tree) :
    Yields (fun settled => tree.Lists settled.1) (told.settle momentFirst path tree) := by
  unfold Description.settle
  refine .bind .any fun isGranted _ => ?_
  have limited : Yields (fun settled => tree.Lists settled.1) (do
      checkNumber told.mode
      told.moment.check
      return (tree.limitPath path (accessOf told.mode), true)) :=
    .bind .any fun _ _ => .bind .any fun _ _ => .ok (.limitPath tree path _)
  split
  · exact .ok (.refl tree)
  · split
    · exact .ok (.refl tree)
    · dsimp only
      split
      · exact .bind .any fun _ _ => limited
      · exact limited

theorem lists_unpackEntry (entry : Entry) (bytes : ByteArray) (directory : String) (tree : Tree) :
    Yields tree.Lists (entry.unpack bytes directory tree) := by
  refine .bind (.mapError (Tree.Lists.ensureParent tree _)) fun between listed => ?_
  dsimp only
  by_cases unnamed : entry.path = ""
  · simp only [unnamed, if_true]
    split <;> exact .error
  · simp only [unnamed, if_false]
    split
    · split
      · exact .ok listed
      · exact listed.yields (.mapError (Tree.Lists.makeDirectory between _))
    · refine .bind .any fun place _ =>
        .bind (listed.yields (.mapError (Tree.Lists.writeFile between _ _))) fun opened listed => ?_
      exact .bind .any fun content _ => listed.yields (.mapError (Tree.Lists.writeFile opened _ _))

theorem lists_unpackZip (bytes : ByteArray) (directory : String) (tree : Tree) :
    Yields tree.Lists (unpackZip bytes directory tree) :=
  .bind .any fun entries _ =>
    .foldlM (fun between _ listed => listed.yields (lists_unpackEntry _ bytes directory between)) entries (.refl tree)

theorem lists_replaceByLink (tree : Tree) (path target : String) : tree.Lists (replaceByLink tree path target).1 := by
  unfold replaceByLink
  dsimp only
  split
  · exact .refl tree
  · rename_i between removed
    have listed : tree.Lists between := by
      split at removed
      · split at removed
        · exact Tree.Lists.unlink tree path between removed
        · cases removed
          exact .refl _
      · cases removed
        exact .refl _
    split
    · rename_i linked made
      exact listed.trans (Tree.Lists.makeLink between path target linked made)
    · exact listed

theorem lists_place (unpacking : Unpacking) (bound index : Nat) (member : TapeMember) (isOwn : Bool) (path : String)
    (tree : Tree) :
    Yields (fun placed => tree.Lists placed.1) (unpacking.place bound index member isOwn path tree) := by
  induction bound generalizing index member isOwn path tree with
  | zero => exact .error
  | succ bound ih =>
    rw [Unpacking.place]
    split
    · exact .error
    · refine .bind (.mapError (Tree.Lists.ensureParent tree _)) fun between listed => ?_
      extract_lets join standIn settle access source
      have settled (placed : Unpacking.Placed) (kept : tree.Lists placed.tree) :
          Yields (fun placed => tree.Lists placed.1) (settle placed) := by
        unfold settle
        split
        · exact .ok kept
        · refine .bind (.mapError (lists_settle _ _ _ placed.tree)) fun given listed => ?_
          cases placed.twin? with
          | none => exact .ok (kept.trans listed)
          | some twin =>
            dsimp only
            split
            · exact .ok (kept.trans (listed.trans (.limitPath _ _ _)))
            · exact .ok (kept.trans listed)
      have stoodIn (missing : String → Except UnpackFault (Tree × Bool)) (between : Tree) (kept : tree.Lists between)
          (left : ∀ target, Yields (fun placed => between.Lists placed.1) (missing target)) :
          Yields (fun placed => tree.Lists placed.tree) (standIn missing between) := by
        unfold standIn
        split
        · exact .error
        · split
          · exact .bind (left _) fun _ listed => .ok (kept.trans listed)
          · exact .bind (ih _ _ _ _ between) fun _ listed => .ok (kept.trans listed)
      clear_value join standIn settle access source
      cases member.kind with
      | directory =>
        dsimp only
        split
        · rename_i after made
          exact settled _ (listed.trans (Tree.Lists.makeDirectory between _ after made))
        · split
          · exact settled _ listed
          · exact .error
      | pipe => exact .bind .any fun place _ => settled _ (listed.trans (.write between place _))
      | stub =>
        exact .bind .any fun _ _ => .bind .any fun place _ =>
          settled _ (listed.trans ((Tree.Lists.write between place _).trans (.limitPath _ _ _)))
      | device => exact .bind .any fun _ _ => .error
      | link =>
        dsimp only
        split
        · exact .error
        · have kept := listed.trans (lists_replaceByLink between (withoutSlashes path) member.target)
          split
          · rename_i linked replaced
            rw [replaced] at kept
            exact settled _ kept
          · rename_i cleared replaced
            rw [replaced] at kept
            exact .bind (stoodIn _ _ kept fun _ => .ok (.refl _)) settled
      | sameFile =>
        dsimp only
        split
        · split
          · rename_i after made
            exact settled _ (listed.trans (Tree.Lists.duplicate between _ _ after made))
          · exact .bind (stoodIn _ _ listed fun _ => .ok (.refl _)) settled
        · refine .bind (stoodIn _ _ listed fun target => ?_) settled
          split
          · exact .error
          · exact .ok (.refl _)
      | _ =>
        exact .bind (listed.yields (.mapError (Tree.Lists.writeFile between _ _))) fun opened listed =>
          .bind .any fun content _ =>
            .bind (listed.yields (.mapError (Tree.Lists.writeFile opened _ _))) fun _ listed => settled _ listed

theorem lists_unpackTape (bytes : ByteArray) (directory : String) (tree : Tree) :
    Yields tree.Lists (unpackTape bytes directory tree) := by
  refine .bind (.foldlM (fun between member listed => ?_) _ (Tree.Lists.refl tree)) fun between listed => ?_
  · exact .bind (lists_place _ _ _ _ _ _ between) fun _ kept => .ok (listed.trans kept)
  · dsimp only
    split
    · exact .error
    · exact .foldlM (fun settled member listed =>
        .bind (.mapError (lists_settle _ _ _ settled)) fun _ kept => .ok (listed.trans kept)) _ listed

/-- An archive that is unpacked leaves every directory listed. -/
theorem lists_unpack (format : Format) (bytes : ByteArray) (directory : String) (tree : Tree) :
    Yields tree.Lists (Archive.unpack format bytes directory tree) := by
  cases format with
  | zip => exact .mapError (lists_unpackZip bytes directory tree)
  | packedTape => exact .mapError (lists_unpackTape bytes directory tree)

end Archive

/-! Writing the files of an API does not either. -/
namespace Target

open Files

theorem lists_saveAll (base directory : String) (files : Files) (tree : Tree) :
    tree.Lists (saveAll base directory files tree).tree := by
  induction files generalizing tree with
  | nil => exact .refl tree
  | cons file rest ih =>
    obtain ⟨path, text⟩ := file
    rw [saveAll]
    split
    · exact .refl tree
    · rename_i between stored
      exact (Tree.Lists.save tree _ _ between stored).trans (ih between)

theorem lists_write (settings : Settings) (headers : List String) (templates : Files) (api : Api)
    (base directory : String) (tree : Tree) :
    tree.Lists (Target.write settings headers templates api base directory tree).tree := by
  unfold Target.write
  split
  · exact .refl tree
  · exact lists_saveAll ..

end Target

end SelectionGen
