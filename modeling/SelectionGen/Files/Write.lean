import SelectionGen.Files.Tree

/-! Changing a file tree at absolute paths, the way a program that may not do everything does it: what is in
the way is named by the path that was asked for, and what was done before stays done. -/
namespace SelectionGen.Files

/-- The part of a path in front of its last slash, without the slashes there unless it is all slashes. -/
def parentPath (path : String) : String :=
  let head := (path.toList.reverse.dropWhile fun c => c != '/')
  let kept := head.dropWhile fun c => c == '/'
  String.ofList (if kept.isEmpty then head else kept).reverse

/-- The part of a path behind its last slash. -/
def lastPart (path : String) : String := (splitSlashes path).getLastD ""

namespace Tree

/-- The place that a path leads to. -/
def placeOf (tree : Tree) (keepsLast : Bool) (path : String) : Except FileFault Place :=
  if path = "" then .error .missing
  else if pathLimit < path.utf8ByteSize then .error .nameTooLong
  else tree.reach keepsLast linkLimit [] (splitSlashes path)

/-- Whether a path leads to something. -/
def hasPath (tree : Tree) (path : String) : Bool :=
  ((tree.placeOf false path).toOption.map tree.isPresent).getD false

/-- Whether a path leads to a directory. -/
def hasDirectory (tree : Tree) (path : String) : Bool :=
  ((tree.placeOf false path).toOption.map tree.isDirectory).getD false

/-- The place of a new entry: nothing may be there, and the directory above has to allow the change. -/
def placeOfNew (tree : Tree) (path : String) : Except FileFault Place := do
  let place ← tree.placeOf true path
  if tree.isPresent place || tree.isLink place then throw .present
  else if !(tree.access place.dropLast).writes then throw .forbidden
  else return place

/-- Makes one directory. -/
def makeDirectory (tree : Tree) (path : String) : Except FileError Tree := do
  return tree.addDirectory (← atPath path (tree.placeOfNew path))

/-- Makes one directory, unless `mayExist` and it is there. -/
def makeDirectoryUnless (mayExist : Bool) (tree : Tree) (path : String) : Except FileError Tree :=
  match tree.makeDirectory path with
  | .ok tree => .ok tree
  | .error error => if mayExist && tree.hasDirectory path then .ok tree else .error error

/-- Makes a directory and those above it that are missing, at most so many. Something else that is found in
the way above is left for the directory below it to stumble over. A single dot needs no directory. -/
def makeDirectoriesUpTo (mayExist : Bool) : Nat → Tree → String → Except FileError Tree
  | 0, tree, path => tree.makeDirectoryUnless mayExist path
  | bound + 1, tree, path => do
    let above := parentPath path
    if above = "" ∨ lastPart path = "" ∨ tree.hasPath above then tree.makeDirectoryUnless mayExist path
    else
      let tree ← match makeDirectoriesUpTo mayExist bound tree above with
        | .ok tree => .ok tree
        | .error error => if error.fault = .present then .ok tree else .error error
      if lastPart path = "." then return tree else tree.makeDirectoryUnless mayExist path

/-- Makes a directory with all that is missing above it. -/
def makeDirectories (tree : Tree) (path : String) : Except FileError Tree :=
  makeDirectoriesUpTo false path.length tree path

/-- Makes a directory with all that is missing above it, unless it is there. -/
def ensureDirectory (tree : Tree) (path : String) : Except FileError Tree :=
  makeDirectoriesUpTo true path.length tree path

/-- Makes what is missing above a path. -/
def ensureParent (tree : Tree) (path : String) : Except FileError Tree :=
  let above := parentPath path
  if above = "" || tree.hasPath above then .ok tree else tree.makeDirectories above

/-- The place that writing to a path goes to, through links: a file that can be written, or a new one. -/
def placeOfWritten (tree : Tree) (path : String) : Except FileFault Place := do
  let place ← tree.placeOf false path
  if tree.isDirectory place then throw .directory
  else if tree.isFile place then
    if !(tree.access place).writes then throw .forbidden
    else if !(tree.access place).answers then throw .noDevice
    else return place
  else if !tree.isDirectory place.dropLast then throw .missing
  else if (tree.access place.dropLast).writes then return place else throw .forbidden

/-- Writes a file in a directory that is there. -/
def writeFile (tree : Tree) (path : String) (content : ByteArray) : Except FileError Tree := do
  return tree.write (← atPath path (tree.placeOfWritten path)) content

/-- Writes a file together with the directories above it. -/
def save (tree : Tree) (path : String) (content : ByteArray) : Except FileError Tree := do
  (← tree.ensureDirectory (parentPath path)).writeFile path content

/-- Removes what is no directory. A link is removed itself. -/
def unlink (tree : Tree) (path : String) : Except FileFault Tree := do
  let place ← tree.placeOf true path
  if tree.isDirectory place then throw .directory
  else if !(tree.isFile place || tree.isLink place) then throw .missing
  else if !(tree.access place.dropLast).writes then throw .forbidden
  else return tree.remove place

/-- Makes a link. It has to say something, but may lead nowhere. -/
def makeLink (tree : Tree) (path target : String) : Except FileFault Tree := do
  if target = "" then throw .missing
  return tree.addLink (← tree.placeOfNew path) target

/-- Gives what is at one path a second one. The two are not told apart any more, so a copy will do for all
that is only read. Directories have one path only. -/
def duplicate (tree : Tree) (source path : String) : Except FileFault Tree := do
  let from_ ← tree.placeOf true source
  let place ← tree.placeOfNew path
  match tree.links.lookup from_, tree.file? from_ with
  | some target, _ => return tree.addLink place target
  | none, some content => return (tree.write place content).limit place (tree.access from_)
  | none, none => throw (if tree.isDirectory from_ then .notPermitted else .missing)

/-- Limits what may be done with the place that a path leads to, if it leads anywhere and that can be
changed. Whether there is a device behind it stays. -/
def limitPath (tree : Tree) (path : String) (access : Access) : Tree :=
  match tree.placeOf false path with
  | .ok place =>
    let before := tree.access place
    if tree.isPresent place && before.changes then
      tree.limit place { access with answers := access.answers && before.answers }
    else tree
  | .error _ => tree

/-- The names of what is in a directory, each once. -/
def entries (tree : Tree) (place : Place) : List String :=
  ((tree.files.map Prod.fst ++ tree.links.map Prod.fst ++ tree.directories).filterMap fun other =>
    if place.isPrefixOf other then other[place.length]? else none).eraseDups

/-- What keeps entries of a directory that is open from being removed, whichever comes first. Entries are
named alone, without the way to them. -/
def removalFault? (tree : Tree) : Nat → Place → Option FileError
  | 0, _ => none
  | depth + 1, place =>
    let allowed := tree.access place
    (tree.entries place).findSome? fun name =>
      let below := place ++ [name]
      let refused := some (FileError.mk .forbidden (some name))
      if !allowed.searches then refused
      else if tree.isDirectory below then
        if !(tree.access below).reads then refused
        else (tree.removalFault? depth below).or (if allowed.writes then none else refused)
      else if allowed.writes then none
      else refused

/-- Removes a directory with all that is in it. -/
def removeAll (tree : Tree) (place : Place) : Except FileError Tree :=
  let depth := (tree.files.map Prod.fst ++ tree.links.map Prod.fst ++ tree.directories).foldl
    (fun depth other => max depth other.length) 0
  if !(tree.access place).reads then .error ⟨.forbidden, some (renderPlace place)⟩
  else
    match tree.removalFault? (depth + 1) place with
    | some error => .error error
    | none => .ok (tree.remove place)

end Tree

end SelectionGen.Files
