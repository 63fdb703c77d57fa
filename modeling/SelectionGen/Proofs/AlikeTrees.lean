import Mathlib.Data.List.Forall2
import SelectionGen.Proofs.FileTrees

/-! Trees that are gone through alike. Where a path leads depends on which places are files, directories and links and
on what may be done with them, not on the order in which a tree lists them nor on what files hold. So a path leads to
the same place in a tree that lists its entries in another order, and a walk finds the same there; and two trees that
differ in what files hold still do so when the same paths are written to or removed. -/
namespace SelectionGen.Files.Tree

variable {tree other : Tree} {place : Place} {path : String}

/-- The same places are files, directories and links, and the same may be done with them. -/
structure Alike (tree other : Tree) : Prop where
  isFile (place : Place) : tree.isFile place = other.isFile place
  isDirectory (place : Place) : tree.isDirectory place = other.isDirectory place
  target? (place : Place) : tree.links.lookup place = other.links.lookup place
  access (place : Place) : tree.access place = other.access place

namespace Alike

variable (alike : Alike tree other)

include alike

theorem isPresent (place : Place) : tree.isPresent place = other.isPresent place := by
  rw [Tree.isPresent, Tree.isPresent, alike.isFile, alike.isDirectory]

theorem isLink (place : Place) : tree.isLink place = other.isLink place := by
  rw [Tree.isLink, Tree.isLink, alike.target?]

theorem isRegular (place : Place) : tree.isRegular place = other.isRegular place := by
  rw [Tree.isRegular, Tree.isRegular, alike.isFile, alike.access]

/-- Names lead to the same place, or fail alike. -/
theorem reach (keepsLast : Bool) (links : Nat) (place : Place) (names : List String) :
    tree.reach keepsLast links place names = other.reach keepsLast links place names := by
  fun_induction tree.reach keepsLast links place names with
  | case1 => rw [Tree.reach]
  | case10 place name rest isDirectory searches moves down short target linked goesOn fewer ih =>
    rw [Tree.reach.eq_def other]
    simp only [← alike.isDirectory, ← alike.access, ← alike.target?, isDirectory, searches, moves, down, short, linked,
      goesOn, Bool.false_eq_true, if_false]
    exact ih
  | case2 | case3 | case4 | case5 | case6 | case7 | case8 | case9 =>
    -- Each question on the way has the same answer in both trees.
    rw [Tree.reach.eq_def other]
    simp only [← alike.isDirectory, ← alike.isPresent, ← alike.access, ← alike.target?, *, Bool.false_eq_true, if_true,
      if_false]

theorem follow (start : Place) (names : List String) : tree.follow start names = other.follow start names := by
  rw [Tree.follow, Tree.follow, alike.reach]

theorem placeOf (keepsLast : Bool) (path : String) : tree.placeOf keepsLast path = other.placeOf keepsLast path := by
  simp only [Tree.placeOf, alike.reach]

theorem placeOfNew (path : String) : tree.placeOfNew path = other.placeOfNew path := by
  simp only [Tree.placeOfNew, alike.placeOf, alike.isPresent, alike.isLink, alike.access]

theorem placeOfWritten (path : String) : tree.placeOfWritten path = other.placeOfWritten path := by
  simp only [Tree.placeOfWritten, alike.placeOf, alike.isDirectory, alike.isFile, alike.access]

theorem hasPath (path : String) : tree.hasPath path = other.hasPath path := by
  have present : tree.isPresent = other.isPresent := funext alike.isPresent
  rw [Tree.hasPath, Tree.hasPath, alike.placeOf, present]

theorem hasDirectory (path : String) : tree.hasDirectory path = other.hasDirectory path := by
  have directory : tree.isDirectory = other.isDirectory := funext alike.isDirectory
  rw [Tree.hasDirectory, Tree.hasDirectory, alike.placeOf, directory]

end Alike

/-! The order in which a tree lists what it holds. -/

/-- Two trees hold the same, in whatever order they list it. -/
structure Rearranged (tree other : Tree) : Prop where
  files : tree.files.Perm other.files
  directories : tree.directories.Perm other.directories
  links : tree.links.Perm other.links
  file? (place : Place) : tree.file? place = other.file? place
  target? (place : Place) : tree.links.lookup place = other.links.lookup place
  access (place : Place) : tree.access place = other.access place

theorem lookup_eq_some_iff_mem {α : Type} {entries : List (Place × α)} (distinct : (entries.map Prod.fst).Nodup)
    {value : α} : entries.lookup place = some value ↔ (place, value) ∈ entries := by
  induction entries with
  | nil => simp
  | cons entry rest ih =>
    obtain ⟨listed, held⟩ := entry
    obtain ⟨fresh, later⟩ := List.nodup_cons.mp distinct
    rw [List.lookup_cons, List.mem_cons]
    by_cases same : place = listed
    · subst same
      have notBehind : (place, value) ∉ rest := fun member => fresh (List.mem_map.mpr ⟨_, member, rfl⟩)
      simp [notBehind, eq_comm]
    · simp [beq_false_of_ne same, same, ih later]

theorem lookup_eq_of_perm {α : Type} {entries others : List (Place × α)} (perm : entries.Perm others)
    (distinct : (entries.map Prod.fst).Nodup) (place : Place) : entries.lookup place = others.lookup place := by
  have distinctToo : (others.map Prod.fst).Nodup := (perm.map Prod.fst).nodup_iff.mp distinct
  refine Option.ext fun value => ?_
  rw [lookup_eq_some_iff_mem distinct, lookup_eq_some_iff_mem distinctToo, perm.mem_iff]

/-- Where no place is listed twice, entries may be listed in any order. -/
theorem Rearranged.of_distinct (files : tree.files.Perm other.files) (links : tree.links.Perm other.links)
    (directories : tree.directories.Perm other.directories) (limits : tree.limits.Perm other.limits)
    (distinctFiles : (tree.files.map Prod.fst).Nodup) (distinctLinks : (tree.links.map Prod.fst).Nodup)
    (distinctLimits : (tree.limits.map Prod.fst).Nodup) : Rearranged tree other where
  files := files
  directories := directories
  links := links
  file? := lookup_eq_of_perm files distinctFiles
  target? := lookup_eq_of_perm links distinctLinks
  access place := by rw [Tree.access, Tree.access, lookup_eq_of_perm limits distinctLimits]

namespace Rearranged

theorem symm (rearranged : Rearranged tree other) : Rearranged other tree where
  files := rearranged.files.symm
  directories := rearranged.directories.symm
  links := rearranged.links.symm
  file? place := (rearranged.file? place).symm
  target? place := (rearranged.target? place).symm
  access place := (rearranged.access place).symm

theorem alike (rearranged : Rearranged tree other) : Alike tree other where
  isFile place := by rw [Tree.isFile, Tree.isFile, rearranged.file?]
  isDirectory place := by
    simp only [Tree.isDirectory, rearranged.directories.any_eq, rearranged.files.any_eq, rearranged.links.any_eq]
  target? := rearranged.target?
  access := rearranged.access

theorem resolve (rearranged : Rearranged tree other) (current : Place) (path : String) :
    tree.resolve current path = other.resolve current path := by
  simp only [Tree.resolve, rearranged.alike.reach]

/-- A path is read as before. -/
theorem read (rearranged : Rearranged tree other) (current : Place) (path : String) :
    tree.read current path = other.read current path := by
  have held : tree.contentAt = other.contentAt := by
    funext place
    simp only [Tree.contentAt, rearranged.file?, rearranged.access, rearranged.alike.isDirectory]
  rw [Tree.read, Tree.read, rearranged.resolve, held]

/-- A walk comes to the same, in whatever order. -/
theorem walk (rearranged : Rearranged tree other) (place : Place) : (tree.walk place).Perm (other.walk place) := by
  have follows : tree.follow [] = other.follow [] := funext (rearranged.alike.follow [])
  have isDirectory : tree.isDirectory = other.isDirectory := funext rearranged.alike.isDirectory
  have reached : tree.isReachedByWalk place = other.isReachedByWalk place := by
    funext below
    simp only [Tree.isReachedByWalk, rearranged.access]
  unfold Tree.walk
  rw [reached, follows, isDirectory]
  exact ((rearranged.files.filterMap _).append (rearranged.links.filterMap _)).filter _

end Rearranged

/-! What files hold. -/

/-- Two trees differ in what files hold at most, and where they do the contents go together. -/
structure Matches (similar : ByteArray → ByteArray → Prop) (tree other : Tree) : Prop where
  files : List.Forall₂ (fun file twin => file.1 = twin.1 ∧ similar file.2 twin.2) tree.files other.files
  directories : tree.directories = other.directories
  links : tree.links = other.links
  limits : tree.limits = other.limits

/-- Outcomes go together if they are the same fault, or values that do. -/
inductive Agree {α ε : Type} (related : α → α → Prop) : Except ε α → Except ε α → Prop
  | failed (error : ε) : Agree related (.error error) (.error error)
  | done {value twin : α} (same : related value twin) : Agree related (.ok value) (.ok twin)

/-- Outcomes that go together are gone on from alike. -/
theorem Agree.bind {α β ε : Type} {related : α → α → Prop} {last : β → β → Prop} {outcome twin : Except ε α}
    {next others : α → Except ε β} (agree : Agree related outcome twin)
    (behind : ∀ value other, related value other → Agree last (next value) (others other)) :
    Agree last (outcome >>= next) (twin >>= others) := by
  cases agree with
  | failed error => exact .failed error
  | done same => exact behind _ _ same

namespace Matches

variable {similar : ByteArray → ByteArray → Prop} (twins : Matches similar tree other)

theorem refl (similar_self : ∀ content, similar content content) (tree : Tree) : Matches similar tree tree :=
  ⟨List.forall₂_same.mpr fun file _ => ⟨rfl, similar_self file.2⟩, rfl, rfl, rfl⟩

include twins

theorem places : tree.files.map Prod.fst = other.files.map Prod.fst := by
  have files := twins.files
  generalize tree.files = listed, other.files = others at files
  induction files with
  | nil => rfl
  | cons same _ ih => rw [List.map_cons, List.map_cons, same.1, ih]

theorem isFile (place : Place) : tree.isFile place = other.isFile place := by
  have files := twins.files
  simp only [Tree.isFile, Tree.file?]
  generalize tree.files = listed, other.files = others at files
  induction files with
  | nil => rfl
  | @cons file twin _ _ same _ ih =>
    obtain ⟨place', content⟩ := file
    obtain ⟨_, held⟩ := twin
    obtain ⟨rfl, -⟩ := same
    rw [List.lookup_cons, List.lookup_cons]
    cases place == place' with
    | true => rfl
    | false => exact ih

theorem alike : Alike tree other where
  isFile := twins.isFile
  isDirectory place := by
    have above (files : List (Place × ByteArray)) : (files.any fun file => place.isPrefixOf file.1 && place != file.1)
        = (files.map Prod.fst).any fun below => place.isPrefixOf below && place != below := by
      rw [List.any_map]
      rfl
    have same : (tree.files.any fun file => place.isPrefixOf file.1 && place != file.1)
        = other.files.any fun file => place.isPrefixOf file.1 && place != file.1 := by
      rw [above, above, twins.places]
    rw [Tree.isDirectory, Tree.isDirectory, twins.directories, twins.links]
    exact congrArg (fun above => _ || above || _) same
  target? place := by rw [twins.links]
  access place := by rw [Tree.access, Tree.access, twins.limits]

theorem addDirectory (place : Place) : Matches similar (tree.addDirectory place) (other.addDirectory place) :=
  { twins with directories := congrArg (· ++ [place]) twins.directories }

theorem write (place : Place) {content held : ByteArray} (same : similar content held) :
    Matches similar (tree.write place content) (other.write place held) := by
  unfold Tree.write
  rw [twins.isFile]
  split
  · refine { twins with files := ?_ }
    refine List.forall₂_map_left_iff.mpr (List.forall₂_map_right_iff.mpr (twins.files.imp ?_))
    rintro ⟨place', content'⟩ ⟨_, held'⟩ ⟨rfl, alike⟩
    dsimp only
    split
    · exact ⟨rfl, same⟩
    · exact ⟨rfl, alike⟩
  · exact { twins with files := List.rel_append twins.files (.cons ⟨rfl, same⟩ .nil) }

theorem remove (place : Place) : Matches similar (tree.remove place) (other.remove place) where
  files := List.rel_filter (fun _ _ same => by simp only [same.1]) twins.files
  directories := by simp only [Tree.remove, twins.directories]
  links := by simp only [Tree.remove, twins.links]
  limits := by simp only [Tree.remove, twins.limits]

/-! Changing both in the same way. -/

theorem makeDirectory (path : String) :
    Agree (Matches similar) (tree.makeDirectory path) (other.makeDirectory path) := by
  unfold Tree.makeDirectory
  rw [twins.alike.placeOfNew]
  cases other.placeOfNew path with
  | error fault => exact .failed _
  | ok place => exact .done (twins.addDirectory place)

theorem makeDirectoryUnless (mayExist : Bool) (path : String) :
    Agree (Matches similar) (tree.makeDirectoryUnless mayExist path) (other.makeDirectoryUnless mayExist path) := by
  have agree := twins.makeDirectory path
  unfold Tree.makeDirectoryUnless
  rw [twins.alike.hasDirectory]
  generalize tree.makeDirectory path = made, other.makeDirectory path = twin at agree ⊢
  cases agree with
  | done made => exact .done made
  | failed error =>
    dsimp only
    split
    · exact .done twins
    · exact .failed error

theorem writeFile (path : String) {content held : ByteArray} (same : similar content held) :
    Agree (Matches similar) (tree.writeFile path content) (other.writeFile path held) := by
  unfold Tree.writeFile
  rw [twins.alike.placeOfWritten]
  cases other.placeOfWritten path with
  | error fault => exact .failed _
  | ok place => exact .done (twins.write place same)

end Matches

theorem Matches.makeDirectoriesUpTo {similar : ByteArray → ByteArray → Prop} (twins : Matches similar tree other)
    (mayExist : Bool) (bound : Nat) (path : String) :
    Agree (Matches similar) (Tree.makeDirectoriesUpTo mayExist bound tree path)
      (Tree.makeDirectoriesUpTo mayExist bound other path) := by
  induction bound generalizing tree other path with
  | zero => exact twins.makeDirectoryUnless mayExist path
  | succ bound ih =>
    rw [Tree.makeDirectoriesUpTo, Tree.makeDirectoriesUpTo, twins.alike.hasPath]
    split
    · exact twins.makeDirectoryUnless mayExist path
    · have last {above abreast : Tree} (twins : Matches similar above abreast) : Agree (Matches similar)
          (if lastPart path = "." then pure above else above.makeDirectoryUnless mayExist path)
          (if lastPart path = "." then pure abreast else abreast.makeDirectoryUnless mayExist path) := by
        split
        · exact .done twins
        · exact twins.makeDirectoryUnless mayExist path
      have agree := ih twins (parentPath path)
      generalize Tree.makeDirectoriesUpTo mayExist bound tree (parentPath path) = above,
        Tree.makeDirectoriesUpTo mayExist bound other (parentPath path) = abreast at agree ⊢
      cases agree with
      | done made => exact last made
      | failed error =>
        dsimp only
        split
        · exact last twins
        · exact .failed error

namespace Matches

variable {similar : ByteArray → ByteArray → Prop} (twins : Matches similar tree other)

include twins

theorem save (path : String) {content held : ByteArray} (same : similar content held) :
    Agree (Matches similar) (tree.save path content) (other.save path held) := by
  have ensured : Agree (Matches similar) (tree.ensureDirectory (parentPath path))
      (other.ensureDirectory (parentPath path)) := twins.makeDirectoriesUpTo true _ _
  exact ensured.bind fun _ _ made => made.writeFile path same

theorem removalFault? (depth : Nat) (place : Place) :
    tree.removalFault? depth place = other.removalFault? depth place := by
  induction depth generalizing place with
  | zero => rfl
  | succ depth ih =>
    have entries : tree.entries place = other.entries place := by
      rw [Tree.entries, Tree.entries, twins.places, twins.links, twins.directories]
    simp only [Tree.removalFault?, entries, twins.alike.access, twins.alike.isDirectory, ih]

theorem removeAll (place : Place) : Agree (Matches similar) (tree.removeAll place) (other.removeAll place) := by
  unfold Tree.removeAll
  simp only [twins.places, twins.links, twins.directories, twins.alike.access, twins.removalFault?]
  split
  · exact .failed _
  · split
    · exact .failed _
    · exact .done (twins.remove place)

end Matches

end SelectionGen.Files.Tree
