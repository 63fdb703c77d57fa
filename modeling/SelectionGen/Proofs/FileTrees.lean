import Mathlib.Data.List.Infix
import Mathlib.Data.List.Induction
import Mathlib.Tactic.SplitIfs
import Mathlib.Tactic.Tauto
import SelectionGen.Files.Write

/-! File trees that are written to. Making directories and writing files leave links and limits alone and leave every
directory one, so a path that has led somewhere leads there for good. Writing a file changes what a single place holds.
Below a directory without links in it, paths lead where they say; where nothing is in the way, a file is saved. -/
namespace SelectionGen

namespace Files

/-- A name of something in a directory, which stands neither for the directory itself nor for the one above it. -/
def IsEntryName (name : String) : Prop := name ≠ "" ∧ name ≠ "." ∧ name ≠ ".." ∧ '/' ∉ name.toList

instance : DecidablePred IsEntryName := fun name =>
  inferInstanceAs (Decidable (name ≠ "" ∧ name ≠ "." ∧ name ≠ ".." ∧ '/' ∉ name.toList))

theorem splitSlashes_append (front back : String) :
    splitSlashes (front ++ "/" ++ back) = splitSlashes front ++ splitSlashes back := Text.pieces_append rfl front back

theorem splitSlashes_injective {path other : String} (same : splitSlashes path = splitSlashes other) :
    path = other := by
  have slashed : "/".toList = ['/'] := rfl
  rw [← Text.intercalate_pieces slashed path, ← Text.intercalate_pieces slashed other]
  exact congrArg _ same

theorem splitSlashes_of_entry {name : String} (isEntry : IsEntryName name) : splitSlashes name = [name] := by
  rw [splitSlashes, Text.pieces, Text.splitAt_of_not_mem isEntry.2.2.2, List.map_singleton, String.ofList_toList]

/-! Absolute paths, as places are written. -/

variable {place : Place} {name : String}

/-- Every name on the way to a place is that of an entry, and none is too long. -/
def IsNamed (place : Place) : Prop := ∀ name ∈ place, IsEntryName name ∧ ¬ Tree.nameLimit < name.utf8ByteSize

instance : DecidablePred IsNamed := fun place =>
  inferInstanceAs (Decidable (∀ name ∈ place, IsEntryName name ∧ ¬ Tree.nameLimit < name.utf8ByteSize))

theorem renderPlace_concat (place : Place) (name : String) : renderPlace (place ++ [name])
    = if place = [] then "/" ++ name else renderPlace place ++ "/" ++ name := by
  split_ifs with top
  · simp [top, renderPlace]
  · rw [renderPlace, String.intercalate_append_of_ne_nil top (List.cons_ne_nil _ _), String.intercalate_singleton,
      renderPlace]
    simp only [String.append_assoc]

theorem length_le_renderPlace (place : Place) : place.length ≤ (renderPlace place).length := by
  induction place using List.reverseRecOn with
  | nil => exact Nat.zero_le _
  | append_singleton place name ih =>
    have slash : "/".length = 1 := rfl
    rw [renderPlace_concat, List.length_append, List.length_singleton]
    split_ifs with top
    · rw [top, String.length_append]
      simp only [List.length_nil]
      omega
    · rw [String.length_append, String.length_append]
      omega

theorem splitSlashes_renderPlace (named : IsNamed place) (isSome : place ≠ []) :
    splitSlashes (renderPlace place) = "" :: place := by
  have slashed : "/".toList = ['/'] := rfl
  have whole := splitSlashes_append "" ("/".intercalate place)
  rw [String.empty_append] at whole
  rw [renderPlace, whole, splitSlashes, splitSlashes,
    Text.pieces_intercalate slashed isSome fun name member => (named name member).1.2.2.2]
  rfl

theorem lastPart_renderPlace (named : IsNamed (place ++ [name])) : lastPart (renderPlace (place ++ [name])) = name := by
  rw [lastPart, splitSlashes_renderPlace named (by simp), ← List.cons_append, List.getLastD_concat]

/-- A place below the top is written without a slash at its end. -/
theorem renderPlace_ends (named : IsNamed place) (isSome : place ≠ []) :
    ∃ front last, (renderPlace place).toList = front ++ [last] ∧ last ≠ '/' := by
  obtain ⟨above, name, rfl⟩ := (List.eq_nil_or_concat' place).resolve_left isSome
  obtain ⟨isEntry, _⟩ := named name (List.mem_append_right _ List.mem_cons_self)
  obtain ⟨front, whole⟩ : ∃ front, renderPlace (above ++ [name]) = front ++ name := by
    rw [renderPlace_concat]
    split_ifs
    · exact ⟨_, rfl⟩
    · exact ⟨_, rfl⟩
  obtain none | ⟨others, last, split⟩ := List.eq_nil_or_concat' name.toList
  · exact absurd (String.toList_eq_nil_iff.mp none) isEntry.1
  · refine ⟨front.toList ++ others, last, by rw [whole, String.toList_append, split, List.append_assoc], ?_⟩
    rintro rfl
    exact isEntry.2.2.2 (split ▸ List.mem_append_right _ List.mem_cons_self)

theorem parentPath_renderPlace (named : IsNamed (place ++ [name])) :
    parentPath (renderPlace (place ++ [name])) = renderPlace place := by
  obtain ⟨isEntry, _⟩ := named name (List.mem_append_right _ List.mem_cons_self)
  have below : ∀ c ∈ name.toList.reverse, (c != '/') = true := by
    intro c member
    have other : c ≠ '/' := fun same => isEntry.2.2.2 (same ▸ List.mem_reverse.mp member)
    simpa using other
  by_cases top : place = []
  · subst top
    simp [parentPath, renderPlace, List.dropWhile_append_of_pos below]
  · have aboveNamed : IsNamed place := fun other member => named other (List.mem_append_left _ member)
    have isSome : renderPlace place ≠ "" := by simp [renderPlace]
    have ends : (renderPlace place).toList.reverse.dropWhile (fun c => c == '/')
        = (renderPlace place).toList.reverse := by
      obtain ⟨front, last, whole, unslashed⟩ := renderPlace_ends aboveNamed top
      simp [whole, unslashed]
    simp [parentPath, renderPlace_concat, top, List.dropWhile_append_of_pos below, ends, isSome]

end Files

namespace Files.Tree

variable {tree before between after : Tree} {keepsLast mayExist : Bool} {links fewer more : Nat}
  {place found home : Place} {name path : String} {names front back : List String} {content : ByteArray}

/-! Where names lead, one name after the other. -/

/-- Names lead to a place, on a way with at most so many links. -/
inductive Leads (tree : Tree) (keepsLast : Bool) : Nat → Place → List String → Place → Prop
  | here {links : Nat} {place : Place} : Leads tree keepsLast links place [] place
  | stays {links : Nat} {place found : Place} {name : String} {rest : List String}
    (isDirectory : tree.isDirectory place = true) (searches : (tree.access place).searches = true)
    (stands : name = "" ∨ name = ".") (behind : Leads tree keepsLast links place rest found) :
    Leads tree keepsLast links place (name :: rest) found
  | leaves {links : Nat} {place found : Place} {rest : List String}
    (isDirectory : tree.isDirectory place = true) (searches : (tree.access place).searches = true)
    (behind : Leads tree keepsLast links place.dropLast rest found) :
    Leads tree keepsLast links place (".." :: rest) found
  | enters {links : Nat} {place found : Place} {name : String} {rest : List String}
    (isDirectory : tree.isDirectory place = true) (searches : (tree.access place).searches = true)
    (moves : ¬ (name = "" ∨ name = ".") ∧ name ≠ "..") (short : ¬ nameLimit < name.utf8ByteSize)
    (unlinked : tree.links.lookup (place ++ [name]) = none)
    (behind : Leads tree keepsLast links (place ++ [name]) rest found) :
    Leads tree keepsLast links place (name :: rest) found
  | keeps {links : Nat} {place : Place} {name target : String} {rest : List String}
    (isDirectory : tree.isDirectory place = true) (searches : (tree.access place).searches = true)
    (moves : ¬ (name = "" ∨ name = ".") ∧ name ≠ "..") (short : ¬ nameLimit < name.utf8ByteSize)
    (linked : tree.links.lookup (place ++ [name]) = some target) (isLast : (keepsLast && rest.isEmpty) = true) :
    Leads tree keepsLast links place (name :: rest) (place ++ [name])
  | follows {fewer : Nat} {place found : Place} {name target : String} {rest : List String}
    (isDirectory : tree.isDirectory place = true) (searches : (tree.access place).searches = true)
    (moves : ¬ (name = "" ∨ name = ".") ∧ name ≠ "..") (short : ¬ nameLimit < name.utf8ByteSize)
    (linked : tree.links.lookup (place ++ [name]) = some target) (goesOn : ¬ (keepsLast && rest.isEmpty) = true)
    (behind : Leads tree keepsLast fewer (if Text.beginsWith "/" target then [] else place)
      (splitSlashes target ++ rest) found) :
    Leads tree keepsLast (fewer + 1) place (name :: rest) found

theorem leads_of_reach (reached : tree.reach keepsLast links place names = .ok found) :
    Leads tree keepsLast links place names found := by
  revert reached
  fun_induction tree.reach keepsLast links place names with
  | case1 links place =>
    rintro ⟨⟩
    exact .here
  | case2 | case3 | case6 | case9 =>
    rintro ⟨⟩
  | case4 links place name rest isDirectory searches stands ih =>
    exact fun reached => .stays (by simpa using isDirectory) (by simpa using searches) stands (ih reached)
  | case5 links place rest isDirectory searches moves ih =>
    exact fun reached => .leaves (by simpa using isDirectory) (by simpa using searches) (ih reached)
  | case7 place name rest isDirectory searches moves down short links unlinked ih =>
    exact fun reached =>
      .enters (by simpa using isDirectory) (by simpa using searches) ⟨moves, down⟩ short unlinked (ih reached)
  | case8 place name rest isDirectory searches moves down short target links linked isLast =>
    rintro ⟨⟩
    exact .keeps (by simpa using isDirectory) (by simpa using searches) ⟨moves, down⟩ short linked isLast
  | case10 place name rest isDirectory searches moves down short target linked goesOn fewer ih =>
    exact fun reached => .follows (by simpa using isDirectory) (by simpa using searches) ⟨moves, down⟩ short linked
      goesOn (ih reached)

theorem Leads.reach (leads : Leads tree keepsLast links place names found) :
    tree.reach keepsLast links place names = .ok found := by
  induction leads with
  | here => rw [Tree.reach]
  | stays isDirectory searches stands _ ih =>
    rw [Tree.reach.eq_def]
    simpa [isDirectory, searches, stands] using ih
  | leaves isDirectory searches _ ih =>
    rw [Tree.reach.eq_def]
    simpa [isDirectory, searches] using ih
  | enters isDirectory searches moves short unlinked _ ih =>
    rw [Tree.reach.eq_def]
    simpa [isDirectory, searches, moves.1, moves.2, short, unlinked] using ih
  | keeps isDirectory searches moves short linked isLast =>
    rw [Tree.reach.eq_def]
    simp [isDirectory, searches, moves.1, moves.2, short, linked, isLast]
  | follows isDirectory searches moves short linked goesOn _ ih =>
    rw [Tree.reach.eq_def]
    simpa [isDirectory, searches, moves.1, moves.2, short, linked, goesOn] using ih

/-! What stays when directories are made and files are written. -/

/-- Everything that could be gone through in a tree can be gone through in another one, with the same links on the
way. -/
structure Grows (before after : Tree) : Prop where
  links : after.links = before.links
  limits : after.limits = before.limits
  directories : ∀ place, before.isDirectory place = true → after.isDirectory place = true

namespace Grows

theorem refl (tree : Tree) : Grows tree tree := ⟨rfl, rfl, fun _ => id⟩

theorem trans (first : Grows before between) (second : Grows between after) : Grows before after where
  links := second.links.trans first.links
  limits := second.limits.trans first.limits
  directories place isDirectory := second.directories place (first.directories place isDirectory)

theorem access (grows : Grows before after) (place : Place) : after.access place = before.access place := by
  rw [Tree.access, Tree.access, grows.limits]

/-- A way through a tree goes through all that it grows to. -/
theorem leads (grows : Grows before after) (leads : Leads before keepsLast links place names found) :
    Leads after keepsLast links place names found := by
  induction leads with
  | here => exact .here
  | stays isDirectory searches stands _ ih =>
    exact .stays (grows.directories _ isDirectory) (by rwa [grows.access]) stands ih
  | leaves isDirectory searches _ ih => exact .leaves (grows.directories _ isDirectory) (by rwa [grows.access]) ih
  | enters isDirectory searches moves short unlinked _ ih =>
    exact .enters (grows.directories _ isDirectory) (by rwa [grows.access]) moves short (by rwa [grows.links]) ih
  | keeps isDirectory searches moves short linked isLast =>
    exact .keeps (grows.directories _ isDirectory) (by rwa [grows.access]) moves short (by rwa [grows.links]) isLast
  | follows isDirectory searches moves short linked goesOn _ ih =>
    exact .follows (grows.directories _ isDirectory) (by rwa [grows.access]) moves short (by rwa [grows.links]) goesOn
      ih

theorem placeOf (grows : Grows before after) (leadsTo : before.placeOf keepsLast path = .ok found) :
    after.placeOf keepsLast path = .ok found := by
  rw [Tree.placeOf] at leadsTo ⊢
  split_ifs at leadsTo ⊢
  exact (grows.leads (leads_of_reach leadsTo)).reach

end Grows

theorem grows_addDirectory (tree : Tree) (place : Place) : Grows tree (tree.addDirectory place) where
  links := rfl
  limits := rfl
  directories other was := by
    simp only [Tree.isDirectory, addDirectory, Bool.or_eq_true, List.any_append] at was ⊢
    tauto

theorem lookup_replaced (files : List (Place × ByteArray)) (place : Place) (content : ByteArray) (other : Place) :
    (files.map fun (listed, old) => if listed = place then (listed, content) else (listed, old)).lookup other
      = if other = place then (files.lookup other).map fun _ => content else files.lookup other := by
  induction files with
  | nil => simp
  | cons file files ih =>
    obtain ⟨listed, old⟩ := file
    have shape : (if listed = place then (listed, content) else (listed, old))
        = (listed, if listed = place then content else old) := by split_ifs <;> rfl
    rw [List.map_cons]
    change ((if listed = place then (listed, content) else (listed, old)) :: _).lookup other = _
    rw [shape, List.lookup_cons, List.lookup_cons, ih]
    by_cases same : other = listed
    · subst same
      split_ifs <;> simp
    · rw [beq_false_of_ne same]

/-- Writing a file changes what the place of the file holds, and nothing else. -/
theorem file?_write (tree : Tree) (place : Place) (content : ByteArray) (other : Place) :
    (tree.write place content).file? other = if other = place then some content else tree.file? other := by
  unfold write
  split
  · rename_i isFile
    rw [file?, lookup_replaced]
    by_cases same : other = place
    · obtain ⟨old, held⟩ := Option.isSome_iff_exists.mp isFile
      rw [if_pos same, if_pos same, same]
      rw [file?] at held
      rw [held, Option.map_some]
    · rw [if_neg same, if_neg same, file?]
  · rename_i noFile
    rw [file?, List.lookup_append]
    by_cases same : other = place
    · have absent : tree.files.lookup place = none := Option.not_isSome_iff_eq_none.mp noFile
      rw [same, absent]
      simp
    · simp [same, file?, List.lookup_cons, beq_false_of_ne same]

/-- Writing a file makes directories of what lies above it, and of nothing else. -/
theorem isDirectory_write (tree : Tree) (place : Place) (content : ByteArray) (other : Place) :
    (tree.write place content).isDirectory other = true ↔
      tree.isDirectory other = true ∨ other <+: place ∧ other ≠ place := by
  unfold write
  split
  · rename_i isFile
    obtain ⟨old, held⟩ := Option.isSome_iff_exists.mp isFile
    obtain ⟨before, behind, split, _⟩ := List.lookup_eq_some_iff.mp held
    have member : (place, old) ∈ tree.files := split ▸ List.mem_append_right _ List.mem_cons_self
    have same (listed : Place × ByteArray) :
        (if listed.1 = place then (listed.1, content) else (listed.1, listed.2)).1 = listed.1 := by
      split_ifs <;> rfl
    simp only [Tree.isDirectory, List.any_map, Function.comp_def, same, Bool.or_eq_true, List.any_eq_true,
      Bool.and_eq_true, bne_iff_ne, List.isPrefixOf_iff_prefix]
    refine ⟨.inl, ?_⟩
    rintro (was | inside)
    · exact was
    · exact .inl (.inr ⟨_, member, inside⟩)
  · simp only [Tree.isDirectory, List.any_append, List.any_cons, List.any_nil, Bool.or_false, Bool.or_eq_true,
      Bool.and_eq_true, bne_iff_ne, List.isPrefixOf_iff_prefix]
    tauto

theorem grows_write (tree : Tree) (place : Place) (content : ByteArray) : Grows tree (tree.write place content) where
  links := by
    unfold write
    split <;> rfl
  limits := by
    unfold write
    split <;> rfl
  directories other was := (isDirectory_write tree place content other).mpr (.inl was)

/-! What making directories and writing a file come to, where they do what they are asked. -/

/-- A tree has grown, but no file in it has changed. -/
structure Prepares (before after : Tree) : Prop extends Grows before after where
  files : after.files = before.files

theorem Prepares.refl (tree : Tree) : Prepares tree tree := ⟨.refl tree, rfl⟩

theorem Prepares.trans (first : Prepares before between) (second : Prepares between after) : Prepares before after :=
  ⟨first.toGrows.trans second.toGrows, second.files.trans first.files⟩

theorem prepares_makeDirectoryUnless (made : tree.makeDirectoryUnless mayExist path = .ok after) :
    Prepares tree after := by
  unfold makeDirectoryUnless makeDirectory at made
  cases placed : tree.placeOfNew path with
  | ok place =>
    rw [placed] at made
    cases made
    exact ⟨grows_addDirectory tree place, rfl⟩
  | error fault =>
    rw [placed] at made
    change (if mayExist && tree.hasDirectory path then Except.ok tree else .error _) = .ok after at made
    split_ifs at made
    cases made
    exact .refl tree

theorem prepares_makeDirectoriesUpTo {bound : Nat} (made : makeDirectoriesUpTo mayExist bound tree path = .ok after) :
    Prepares tree after := by
  induction bound generalizing tree path after with
  | zero => exact prepares_makeDirectoryUnless made
  | succ bound ih =>
    rw [makeDirectoriesUpTo] at made
    split at made
    · exact prepares_makeDirectoryUnless made
    · have last {between : Tree} (above : Prepares tree between)
          (made : (if lastPart path = "." then pure between else between.makeDirectoryUnless mayExist path)
            = .ok after) :
          Prepares tree after := by
        split_ifs at made
        · cases made
          exact above
        · exact above.trans (prepares_makeDirectoryUnless made)
      cases inner : makeDirectoriesUpTo mayExist bound tree (parentPath path) with
      | ok between =>
        rw [inner] at made
        exact last (ih inner) made
      | error error =>
        rw [inner] at made
        by_cases present : error.fault = .present
        · simp only [if_pos present] at made
          exact last (.refl tree) made
        · simp only [if_neg present] at made
          cases made

theorem placeOfWritten_ok (placed : tree.placeOfWritten path = .ok place) : tree.placeOf false path = .ok place := by
  unfold placeOfWritten at placed
  cases leads : tree.placeOf false path with
  | error fault =>
    rw [leads] at placed
    cases placed
  | ok reached =>
    rw [leads] at placed
    simp only [bind, Except.bind, pure, Except.pure, throw, throwThe, MonadExceptOf.throw] at placed
    -- Wherever a place is given out, it is the one that was reached.
    split_ifs at placed <;> cases placed <;> rfl

/-- A file is written at the place that its path leads to. -/
theorem writeFile_ok (done : tree.writeFile path content = .ok after) :
    ∃ place, tree.placeOf false path = .ok place ∧ after = tree.write place content := by
  unfold writeFile at done
  cases placed : tree.placeOfWritten path with
  | error fault =>
    rw [placed] at done
    cases done
  | ok place =>
    rw [placed] at done
    cases done
    exact ⟨place, placeOfWritten_ok placed, rfl⟩

/-- A file that is saved stands at the place that its path leads to. All other files are as they were. -/
theorem save_ok (done : tree.save path content = .ok after) : Grows tree after ∧
    ∃ place, after.placeOf false path = .ok place ∧
      ∀ other, after.file? other = if other = place then some content else tree.file? other := by
  unfold save at done
  cases ensured : tree.ensureDirectory (parentPath path) with
  | error error =>
    rw [ensured] at done
    cases done
  | ok between =>
    rw [ensured] at done
    have prepares := prepares_makeDirectoriesUpTo ensured
    obtain ⟨place, leads, rfl⟩ := writeFile_ok done
    have grows := grows_write between place content
    refine ⟨prepares.toGrows.trans grows, place, grows.placeOf leads, fun other => ?_⟩
    rw [file?_write, file?, file?, prepares.files]

/-! Ways below a directory. -/

/-- A way that names lead is one that the first of them lead, and from there one that the others do. -/
theorem Leads.split (leads : Leads tree false links place (front ++ back) found) :
    ∃ middle fewer, Leads tree false links place front middle ∧ Leads tree false fewer middle back found := by
  generalize whole : front ++ back = names at leads
  induction leads generalizing front with
  | @here links place =>
    obtain ⟨rfl, rfl⟩ := List.append_eq_nil_iff.mp whole
    exact ⟨place, links, .here, .here⟩
  | stays isDirectory searches stands behind ih =>
    obtain ⟨rfl, rfl⟩ | ⟨more, rfl, rfl⟩ := List.append_eq_cons_iff.mp whole
    · exact ⟨_, _, .here, .stays isDirectory searches stands behind⟩
    · obtain ⟨middle, fewer, first, second⟩ := ih rfl
      exact ⟨middle, fewer, .stays isDirectory searches stands first, second⟩
  | leaves isDirectory searches behind ih =>
    obtain ⟨rfl, rfl⟩ | ⟨more, rfl, rfl⟩ := List.append_eq_cons_iff.mp whole
    · exact ⟨_, _, .here, .leaves isDirectory searches behind⟩
    · obtain ⟨middle, fewer, first, second⟩ := ih rfl
      exact ⟨middle, fewer, .leaves isDirectory searches first, second⟩
  | enters isDirectory searches moves short unlinked behind ih =>
    obtain ⟨rfl, rfl⟩ | ⟨more, rfl, rfl⟩ := List.append_eq_cons_iff.mp whole
    · exact ⟨_, _, .here, .enters isDirectory searches moves short unlinked behind⟩
    · obtain ⟨middle, fewer, first, second⟩ := ih rfl
      exact ⟨middle, fewer, .enters isDirectory searches moves short unlinked first, second⟩
  | keeps _ _ _ _ _ isLast => cases isLast
  | follows isDirectory searches moves short linked goesOn behind ih =>
    obtain ⟨rfl, rfl⟩ | ⟨more, rfl, rfl⟩ := List.append_eq_cons_iff.mp whole
    · exact ⟨_, _, .here, .follows isDirectory searches moves short linked goesOn behind⟩
    · obtain ⟨middle, fewer, first, second⟩ := ih (List.append_assoc ..)
      exact ⟨middle, fewer, .follows isDirectory searches moves short linked (by simp) first, second⟩

/-- Without links below a place, the names of entries lead from it to where they say. -/
theorem Leads.eq_append (leads : Leads tree false links home names found)
    (areEntries : ∀ name ∈ names, IsEntryName name)
    (unlinked : ∀ link ∈ tree.links, home <+: link.1 → link.1 = home) : found = home ++ names := by
  induction names generalizing links home with
  | nil =>
    cases leads
    exact (List.append_nil _).symm
  | cons name names ih =>
    obtain ⟨⟨isSome, notHere, notAbove, _⟩, later⟩ := List.forall_mem_cons.mp areEntries
    have noLink {target : String} (linked : tree.links.lookup (home ++ [name]) = some target) : False := by
      obtain ⟨before, behind, split, _⟩ := List.lookup_eq_some_iff.mp linked
      have member : (home ++ [name], target) ∈ tree.links := split ▸ List.mem_append_right _ List.mem_cons_self
      have same := unlinked _ member (List.prefix_append _ _)
      simp at same
    cases leads with
    | stays _ _ stands _ => exact absurd stands (by simp [isSome, notHere])
    | leaves _ _ _ => exact absurd rfl notAbove
    | enters _ _ _ _ _ behind =>
      rw [ih behind later, List.append_assoc, List.singleton_append]
      intro link member below
      rw [unlinked link member ((List.prefix_append _ _).trans below)] at below
      exact absurd below.length_le (by simp)
    | keeps _ _ _ _ linked _ => exact (noLink linked).elim
    | follows _ _ _ _ linked _ _ => exact (noLink linked).elim

theorem Leads.append (first : Leads tree false links place front home)
    (second : ∀ fewer, Leads tree false fewer home back found) :
    Leads tree false links place (front ++ back) found := by
  induction first with
  | here => exact second _
  | stays isDirectory searches stands _ ih => exact .stays isDirectory searches stands (ih second)
  | leaves isDirectory searches _ ih => exact .leaves isDirectory searches (ih second)
  | enters isDirectory searches moves short unlinked _ ih =>
    exact .enters isDirectory searches moves short unlinked (ih second)
  | keeps _ _ _ _ _ isLast => cases isLast
  | follows isDirectory searches moves short linked goesOn _ ih =>
    refine .follows isDirectory searches moves short linked (by simp) ?_
    have goesOnBehind := ih second
    rwa [List.append_assoc] at goesOnBehind

/-- A place that names lead on from is a directory that can be gone through. -/
theorem Leads.isDirectory (leads : Leads tree false links place (name :: names) found) :
    tree.isDirectory place = true ∧ (tree.access place).searches = true := by
  cases leads with
  | stays isDirectory searches _ _ | leaves isDirectory searches _ | enters isDirectory searches _ _ _ _
  | keeps isDirectory searches _ _ _ _ | follows isDirectory searches _ _ _ _ _ => exact ⟨isDirectory, searches⟩

theorem placeOf_eq_ok_iff : tree.placeOf keepsLast path = .ok found ↔
    path ≠ "" ∧ ¬ pathLimit < path.utf8ByteSize ∧ Leads tree keepsLast linkLimit [] (splitSlashes path) found := by
  rw [placeOf]
  split_ifs with none long
  · simp [none]
  · simp [long]
  · exact ⟨fun reached => ⟨none, long, leads_of_reach reached⟩, fun leads => leads.2.2.reach⟩

/-- A path below a directory leads through the place that the directory's own path leads to. -/
theorem leads_of_join {directory below : String} (named : directory ≠ "")
    (leadsTo : tree.placeOf false (join directory below) = .ok found) :
    ∃ home fewer, tree.placeOf false directory = .ok home ∧
      Leads tree false fewer home (splitSlashes below) found := by
  obtain ⟨_, short, leads⟩ := placeOf_eq_ok_iff.mp leadsTo
  simp only [placeOf_eq_ok_iff]
  by_cases ended : Text.endsWith "/" directory = true
  · obtain ⟨front, whole⟩ : ∃ front, directory = front ++ "/" := by
      obtain ⟨characters, split⟩ := List.isSuffixOf_iff_suffix.mp ended
      exact ⟨String.ofList characters, String.toList_inj.mp (by simp [split.symm])⟩
    have joined : join directory below = front ++ "/" ++ below := by
      rw [join, if_pos (.inr ended), whole]
    rw [joined, splitSlashes_append] at leads
    rw [joined] at short
    obtain ⟨home, fewer, first, second⟩ := leads.split
    obtain ⟨name, names, split⟩ := List.exists_cons_of_ne_nil (Text.pieces_ne_nil '/' below)
    have goesOn : Leads tree false fewer home (name :: names) found := split ▸ second
    obtain ⟨isDirectory, searches⟩ := goesOn.isDirectory
    refine ⟨home, fewer, ⟨named, ?_, ?_⟩, second⟩
    · rw [whole]
      rw [String.utf8ByteSize_append] at short
      omega
    · have names : splitSlashes directory = splitSlashes front ++ [""] := by
        have split := splitSlashes_append front ""
        rw [String.append_empty] at split
        rw [whole, split]
        rfl
      rw [names]
      exact first.append fun _ => .stays isDirectory searches (.inl rfl) .here
  · have joined : join directory below = directory ++ "/" ++ below := by
      rw [join, if_neg (by simp [named, ended])]
    rw [joined, splitSlashes_append] at leads
    rw [joined, String.utf8ByteSize_append, String.utf8ByteSize_append] at short
    obtain ⟨home, fewer, first, second⟩ := leads.split
    exact ⟨home, fewer, ⟨named, by omega, first⟩, second⟩

/-! Places that need not be there. -/

theorem settleName_of_unlinked (unlinked : tree.links = []) (followed : Place → List String → Except FileFault Place)
    (place : Place) {name : String} (proper : ¬ (name = "" ∨ name = ".")) :
    tree.settleName followed place name = .ok (if name = ".." then place.dropLast else place ++ [name]) := by
  have none : tree.linkAt? (place ++ [name]) = none := by
    rw [linkAt?, unlinked]
    split_ifs <;> simp
  rw [settleName, if_neg proper, none]
  split_ifs <;> rfl

/-- Without links a path stands for the place that it names as it is written. -/
theorem settle_of_unlinked (unlinked : tree.links = []) (through : Nat) (current : Place) (text : String) :
    tree.settle through (if (Path.ofString text).isAbsolute then [] else current) (Path.ofString text).parts
      = .ok (absolutePlace current (Path.ofString text)) := by
  have proper : ∀ name ∈ (Path.ofString text).parts, ¬ (name = "" ∨ name = ".") := fun name member =>
    not_or.mpr (by simpa using (List.mem_filter.mp member).2)
  have each (followed : Place → List String → Except FileFault Place) (names : List String) (start : Place)
      (proper : ∀ name ∈ names, ¬ (name = "" ∨ name = ".")) : names.foldlM (tree.settleName followed) start
        = .ok (names.foldl (fun place name => if name = ".." then place.dropLast else place ++ [name]) start) := by
    induction names generalizing start with
    | nil => rfl
    | cons name names ih =>
      obtain ⟨here, later⟩ := List.forall_mem_cons.mp proper
      rw [List.foldlM_cons, settleName_of_unlinked unlinked followed start here, List.foldl_cons, ← ih _ later]
      rfl
  cases through <;> exact each _ _ _ proper

/-! Writing where nothing is in the way. -/

theorem isDirectory_of_prefix {above : Place} (isPrefix : above <+: place)
    (isDirectory : tree.isDirectory place = true) : tree.isDirectory above = true := by
  have below {other : Place} (inside : place <+: other ∧ place ≠ other) : above <+: other ∧ above ≠ other := by
    refine ⟨isPrefix.trans inside.1, ?_⟩
    rintro rfl
    exact inside.2 (inside.1.eq_of_length_le isPrefix.length_le)
  simp only [Tree.isDirectory, Bool.or_eq_true, List.any_eq_true, List.isEmpty_iff, Bool.and_eq_true, bne_iff_ne,
    List.isPrefixOf_iff_prefix] at isDirectory ⊢
  rcases isDirectory with ((rfl | ⟨other, member, inside⟩) | ⟨file, member, inside⟩) | ⟨link, member, inside⟩
  · exact .inl (.inl (.inl (List.prefix_nil.mp isPrefix)))
  · exact .inl (.inl (.inr ⟨other, member, isPrefix.trans inside⟩))
  · exact .inl (.inr ⟨file, member, below inside⟩)
  · exact .inr ⟨link, member, below inside⟩

/-- Nothing in a tree is a link, and everything may be done in it. -/
structure IsPlain (tree : Tree) : Prop where
  links : tree.links = []
  limits : tree.limits = []

theorem Grows.isPlain (grows : Grows before after) (plain : IsPlain before) : IsPlain after :=
  ⟨grows.links.trans plain.links, grows.limits.trans plain.limits⟩

namespace IsPlain

theorem access (plain : IsPlain tree) (place : Place) : tree.access place = {} := by
  rw [Tree.access, plain.limits]
  rfl

theorem link (plain : IsPlain tree) (place : Place) : tree.links.lookup place = none := by
  rw [plain.links]
  rfl

theorem leads (plain : IsPlain tree) (home : Place) (named : IsNamed names)
    (above : ∀ front name, front ++ [name] <+: names → tree.isDirectory (home ++ front) = true) :
    Leads tree keepsLast links home names (home ++ names) := by
  induction names generalizing home with
  | nil => exact (List.append_nil home).symm ▸ .here
  | cons name names ih =>
    obtain ⟨⟨isEntry, short⟩, later⟩ := List.forall_mem_cons.mp named
    have isDirectory : tree.isDirectory home = true := by
      have first := above [] name (List.prefix_append [name] names)
      rwa [List.append_nil] at first
    refine .enters isDirectory (by rw [plain.access]) ⟨by simp [isEntry.1, isEntry.2.1], isEntry.2.2.1⟩ short
      (plain.link _) ?_
    have behind := ih (home ++ [name]) later fun front other isPrefix => by
      have longer := above (name :: front) other (List.cons_prefix_cons.mpr ⟨rfl, isPrefix⟩)
      rwa [List.append_cons] at longer
    rwa [← List.append_cons] at behind

end IsPlain

/-- A place can be written down: its names are those of entries, and its path is not too long. -/
structure IsWritable (place : Place) : Prop where
  named : IsNamed place
  short : ¬ pathLimit < (renderPlace place).utf8ByteSize

theorem IsWritable.above (writable : IsWritable (place ++ [name])) : IsWritable place where
  named other member := writable.named other (List.mem_append_left _ member)
  short := by
    have whole := writable.short
    rw [renderPlace_concat] at whole
    split_ifs at whole with top
    · subst top
      decide
    · rw [String.utf8ByteSize_append, String.utf8ByteSize_append] at whole
      omega

/-- What a place is written as leads there, where the directories above it are there. -/
theorem IsPlain.placeOf (plain : IsPlain tree) (writable : IsWritable place)
    (above : tree.isDirectory place.dropLast = true) : tree.placeOf keepsLast (renderPlace place) = .ok place := by
  have isSome : renderPlace place ≠ "" := by simp [renderPlace]
  have searches (other : Place) : (tree.access other).searches = true := by rw [plain.access]
  refine placeOf_eq_ok_iff.mpr ⟨isSome, writable.short, ?_⟩
  by_cases top : place = []
  · subst top
    have atTop : splitSlashes (renderPlace []) = ["", ""] := rfl
    rw [atTop]
    exact .stays rfl (searches _) (.inl rfl) (.stays rfl (searches _) (.inl rfl) .here)
  · rw [splitSlashes_renderPlace writable.named top]
    refine .stays rfl (searches _) (.inl rfl) (plain.leads [] writable.named fun front name isPrefix => ?_)
    have inFront : front <+: place.dropLast := by
      obtain ⟨init, last, rfl⟩ := (List.eq_nil_or_concat' place).resolve_left top
      rw [List.dropLast_concat]
      rcases List.prefix_concat_iff.mp isPrefix with same | shorter
      · exact (List.append_inj' same rfl).1 ▸ List.prefix_rfl
      · exact (List.prefix_append _ _).trans shorter
    exact isDirectory_of_prefix inFront above

/-- What a place is written as leads nowhere else. -/
theorem IsPlain.eq_of_placeOf (plain : IsPlain tree) (writable : IsWritable place)
    (leadsTo : tree.placeOf false (renderPlace place) = .ok found) : found = place := by
  by_cases top : place = []
  · subst top
    exact Except.ok.inj (leadsTo.symm.trans (plain.placeOf writable rfl))
  · have leads := (placeOf_eq_ok_iff.mp leadsTo).2.2
    rw [splitSlashes_renderPlace writable.named top] at leads
    generalize nothing : "" = name at leads
    cases leads with
    | stays _ _ _ behind =>
      have areEntries : ∀ name ∈ place, IsEntryName name := fun name member => (writable.named name member).1
      exact behind.eq_append areEntries (by simp [plain.links])
    | leaves => exact absurd nothing (by decide)
    | keeps _ _ _ _ _ isLast => cases isLast
    | enters _ _ moves _ _ _ => exact absurd (.inl nothing.symm) moves.1
    | follows _ _ moves _ _ _ _ => exact absurd (.inl nothing.symm) moves.1

/-- A way has been made to a place: it is a directory, and so are those above it, but no others. -/
structure MakesWay (place : Place) (before after : Tree) : Prop extends Prepares before after where
  made : after.isDirectory place = true
  only : ∀ other, after.isDirectory other = true → before.isDirectory other = true ∨ other <+: place

theorem makesWay_refl (isDirectory : tree.isDirectory place = true) : MakesWay place tree tree :=
  ⟨.refl tree, isDirectory, fun _ => .inl⟩

theorem makesWay_addDirectory (tree : Tree) (place : Place) : MakesWay place tree (tree.addDirectory place) where
  toGrows := grows_addDirectory tree place
  files := rfl
  made := by simp [Tree.isDirectory, addDirectory]
  only other isDirectory := by
    simp only [Tree.isDirectory, addDirectory, List.any_append, Bool.or_eq_true, List.any_cons, List.any_nil,
      Bool.or_false, List.isPrefixOf_iff_prefix] at isDirectory ⊢
    tauto

theorem MakesWay.below (first : MakesWay place before between) (second : MakesWay (place ++ [name]) between after) :
    MakesWay (place ++ [name]) before after where
  toPrepares := first.toPrepares.trans second.toPrepares
  made := second.made
  only other isDirectory := by
    rcases second.only other isDirectory with was | inside
    · exact (first.only other was).imp_right fun inside => inside.trans (List.prefix_append _ _)
    · exact .inr inside

/-- One directory is made where nothing but a directory is there and the one above it is. -/
theorem IsPlain.makeDirectoryUnless (plain : IsPlain tree) (writable : IsWritable place)
    (above : tree.isDirectory place.dropLast = true) (noFile : tree.file? place = none) :
    ∃ after, tree.makeDirectoryUnless true (renderPlace place) = .ok after ∧ MakesWay place tree after := by
  have leads {keepsLast : Bool} : tree.placeOf keepsLast (renderPlace place) = .ok place := plain.placeOf writable above
  by_cases isDirectory : tree.isDirectory place = true
  · refine ⟨tree, ?_, makesWay_refl isDirectory⟩
    have present : tree.placeOfNew (renderPlace place) = .error .present := by
      simp [placeOfNew, leads, isPresent, isDirectory, bind, Except.bind, throw, throwThe, MonadExceptOf.throw]
    have found : tree.hasDirectory (renderPlace place) = true := by
      simp [hasDirectory, leads, isDirectory, Except.toOption]
    simp [Tree.makeDirectoryUnless, makeDirectory, present, found, atPath, bind, Except.bind, Except.mapError]
  · refine ⟨tree.addDirectory place, ?_, makesWay_addDirectory tree place⟩
    have fresh : tree.placeOfNew (renderPlace place) = .ok place := by
      simp [placeOfNew, leads, isPresent, isDirectory, isFile, noFile, isLink, plain.link, plain.access, bind,
        Except.bind, pure, Except.pure]
    simp [Tree.makeDirectoryUnless, makeDirectory, fresh, atPath, bind, Except.bind, Except.mapError, pure, Except.pure]

/-- Directories are made up to a place where no file is on the way. -/
theorem IsPlain.makeDirectoriesUpTo (plain : IsPlain tree) (writable : IsWritable place)
    (noFile : ∀ above, above <+: place → tree.file? above = none) (bound : Nat) (enough : place.length ≤ bound) :
    ∃ after, makeDirectoriesUpTo true bound tree (renderPlace place) = .ok after ∧ MakesWay place tree after := by
  induction place using List.reverseRecOn generalizing bound with
  | nil =>
    have alone := plain.makeDirectoryUnless writable rfl (noFile [] List.prefix_rfl)
    cases bound with
    | zero => exact alone
    | succ bound =>
      have last : lastPart (renderPlace []) = "" := rfl
      simpa [Tree.makeDirectoriesUpTo, last] using alone
  | append_singleton place name ih =>
    obtain ⟨bound, rfl⟩ : ∃ fewer, bound = fewer + 1 := ⟨bound - 1, by
      rw [List.length_append, List.length_singleton] at enough
      omega⟩
    obtain ⟨⟨isSome, notHere, _⟩, _⟩ := writable.named name (List.mem_append_right _ List.mem_cons_self)
    have aboveIsSome : renderPlace place ≠ "" := by simp [renderPlace]
    have aboveNoFile : ∀ above, above <+: place → tree.file? above = none := fun above isPrefix =>
      noFile above (isPrefix.trans (List.prefix_append _ _))
    simp only [Tree.makeDirectoriesUpTo, parentPath_renderPlace writable.named, lastPart_renderPlace writable.named,
      aboveIsSome, isSome, notHere, false_or, if_false]
    by_cases has : tree.hasPath (renderPlace place) = true
    · rw [if_pos has]
      have isDirectory : tree.isDirectory place = true := by
        cases leadsTo : tree.placeOf false (renderPlace place) with
        | error fault => simp [hasPath, leadsTo, Except.toOption] at has
        | ok found =>
          obtain rfl := plain.eq_of_placeOf writable.above leadsTo
          simpa [hasPath, leadsTo, Except.toOption, isPresent, isFile, aboveNoFile found List.prefix_rfl] using has
      exact plain.makeDirectoryUnless writable (by rwa [List.dropLast_concat]) (noFile _ List.prefix_rfl)
    · obtain ⟨between, made, makesWay⟩ := ih writable.above aboveNoFile bound (by simpa using enough)
      have unchanged : between.file? (place ++ [name]) = none := by
        rw [file?, makesWay.files]
        exact noFile _ List.prefix_rfl
      obtain ⟨after, madeLast, last⟩ := (makesWay.toGrows.isPlain plain).makeDirectoryUnless writable
        (by rw [List.dropLast_concat]; exact makesWay.made) unchanged
      refine ⟨after, ?_, makesWay.below last⟩
      rw [if_neg has, made]
      exact madeLast

/-- Nothing is in the way of a file: it can be written down, no file is on the way to it, and no directory in its
place. -/
structure Admits (tree : Tree) (place : Place) : Prop extends IsWritable place where
  noFile : ∀ above, above <+: place.dropLast → tree.file? above = none
  noDirectory : ¬ tree.isDirectory place = true

theorem admits_empty (writable : IsWritable place) (isSome : place ≠ []) : Admits {} place where
  toIsWritable := writable
  noFile _ _ := rfl
  noDirectory := by simp [Tree.isDirectory, isSome]

/-- Where nothing is in the way, a file is saved, and no directories are made but those above it. -/
theorem IsPlain.save (plain : IsPlain tree) (admits : tree.Admits place) (content : ByteArray) :
    ∃ after, tree.save (renderPlace place) content = .ok after ∧
      ∀ other, after.isDirectory other = true → tree.isDirectory other = true ∨ other <+: place.dropLast := by
  obtain rfl | ⟨above, name, rfl⟩ := List.eq_nil_or_concat' place
  · exact absurd rfl admits.noDirectory
  rw [List.dropLast_concat]
  have noFile : ∀ other, other <+: above → tree.file? other = none := by
    have none := admits.noFile
    rwa [List.dropLast_concat] at none
  obtain ⟨between, ensured, makesWay⟩ :=
    plain.makeDirectoriesUpTo admits.toIsWritable.above noFile _ (length_le_renderPlace above)
  have noDirectory : ¬ between.isDirectory (above ++ [name]) = true := by
    intro isDirectory
    rcases makesWay.only _ isDirectory with was | inside
    · exact admits.noDirectory was
    · exact absurd inside.length_le (by simp)
  have betweenPlain := makesWay.toGrows.isPlain plain
  have placed : between.placeOf false (renderPlace (above ++ [name])) = .ok (above ++ [name]) :=
    betweenPlain.placeOf admits.toIsWritable (by rw [List.dropLast_concat]; exact makesWay.made)
  have written : between.placeOfWritten (renderPlace (above ++ [name])) = .ok (above ++ [name]) := by
    simp [placeOfWritten, placed, noDirectory, betweenPlain.access, makesWay.made, bind, Except.bind, pure, Except.pure]
  refine ⟨between.write (above ++ [name]) content, ?_, fun other isDirectory => ?_⟩
  · simp [Tree.save, parentPath_renderPlace admits.named, ensureDirectory, ensured, writeFile, written, atPath, bind,
      Except.bind, Except.mapError, pure, Except.pure]
  · rcases (isDirectory_write _ _ _ _).mp isDirectory with was | ⟨inside, apart⟩
    · exact makesWay.only other was
    · exact .inr ((List.prefix_concat_iff.mp inside).resolve_left apart)

end Files.Tree

end SelectionGen
