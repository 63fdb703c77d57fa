import SelectionGen.Files.Fault
import SelectionGen.Files.Path

/-! A file tree as a value. Places are the lists of names from the top; a file's proper initial parts are
directories, and empty directories are listed apart. A link stands for the path it holds. Where nothing
else is noted, everything may be done with a place. -/
namespace SelectionGen.Files

/-- A place in the tree, as the names on the way to it. -/
abbrev Place := List String

/-- How a place is written as an absolute path. -/
def renderPlace (place : Place) : String := "/" ++ "/".intercalate place

/-- What may be done with a place: reading a file or listing a directory, writing a file or changing what
a directory holds, going through a directory to what it holds, and changing all this. A file that does
not answer is the name of a device that is not there. -/
structure Access where
  reads : Bool := true
  writes : Bool := true
  searches : Bool := true
  changes : Bool := true
  answers : Bool := true
deriving DecidableEq, Repr

structure Tree where
  files : List (Place × ByteArray) := []
  directories : List Place := []
  links : List (Place × String) := []
  limits : List (Place × Access) := []

namespace Tree

def file? (tree : Tree) (place : Place) : Option ByteArray := tree.files.lookup place

def isFile (tree : Tree) (place : Place) : Bool := (tree.file? place).isSome

def isLink (tree : Tree) (place : Place) : Bool := (tree.links.lookup place).isSome

/-- A place is a directory if it is the top, is listed, or lies above something. -/
def isDirectory (tree : Tree) (place : Place) : Bool :=
  place.isEmpty
    || tree.directories.any (fun directory => place.isPrefixOf directory)
    || tree.files.any (fun (other, _) => place.isPrefixOf other && place != other)
    || tree.links.any (fun (other, _) => place.isPrefixOf other && place != other)

def isPresent (tree : Tree) (place : Place) : Bool := tree.isFile place || tree.isDirectory place

def access (tree : Tree) (place : Place) : Access := (tree.limits.lookup place).getD {}

/-- A file with a content, which the name of a device that is not there has not. -/
def isRegular (tree : Tree) (place : Place) : Bool := tree.isFile place && (tree.access place).answers

/-- The longest name, in bytes. -/
def nameLimit : Nat := 255

/-- The longest path, in bytes. -/
def pathLimit : Nat := 4095

/-- The most links that are followed on the way to one place. -/
def linkLimit : Nat := 40

/-- Where names lead from a place. Everything but the last has to be a directory that can be searched, and
so has the place that a single dot or nothing stays at and the one that a double dot leaves. A link
leads on to what it stands for; a link in the last place is itself meant if `keepsLast`. The place
reached may hold nothing yet. -/
def reach (tree : Tree) (keepsLast : Bool) :
    (links : Nat) → Place → (names : List String) → Except FileFault Place
  | _, place, [] => .ok place
  | links, place, name :: rest =>
    if !tree.isDirectory place then .error (if tree.isPresent place then .notDirectory else .missing)
    else if !(tree.access place).searches then .error .forbidden
    else if name = "" ∨ name = "." then tree.reach keepsLast links place rest
    else if name = ".." then tree.reach keepsLast links place.dropLast rest
    else if nameLimit < name.utf8ByteSize then .error .nameTooLong
    else
      match tree.links.lookup (place ++ [name]), links with
      | none, links => tree.reach keepsLast links (place ++ [name]) rest
      | some target, links =>
        if keepsLast && rest.isEmpty then .ok (place ++ [name])
        else
          match links with
          | 0 => .error .tooManyLinks
          | fewer + 1 =>
            tree.reach keepsLast fewer (if Text.beginsWith "/" target then [] else place)
              (splitSlashes target ++ rest)
termination_by links _ names => (links, names.length)

/-- Where names lead from a place, links followed to their end. -/
def follow (tree : Tree) (start : Place) (names : List String) : Option Place :=
  (tree.reach false linkLimit start names).toOption

/-- Where a path leads as it is written, read in the given directory. -/
def resolve (tree : Tree) (current : Place) (text : String) : Except FileFault Place :=
  if pathLimit < text.utf8ByteSize then .error .nameTooLong
  else
    tree.reach false linkLimit (if Text.beginsWith "/" text then [] else current) (splitSlashes text)

/-- What a path names exactly as it is written, if there is something: a slash at its end asks for a
directory, and no text at all names nothing. -/
def find? (tree : Tree) (current : Place) (text : String) : Option Place :=
  if text = "" then none else (tree.resolve current text).toOption.filter tree.isPresent

/-- What the link at a place stands for, if there is one and the way to it is open. -/
def linkAt? (tree : Tree) (place : Place) : Option String :=
  if pathLimit < (renderPlace place).utf8ByteSize then none
  else (tree.reach true linkLimit [] place).toOption.bind fun there => tree.links.lookup there

/-- The place that one name stands for at another, whether it is there or not. What a link stands for is followed. -/
def settleName (tree : Tree) (followed : Place → List String → Except FileFault Place) (place : Place)
    (name : String) : Except FileFault Place :=
  if name = "" ∨ name = "." then .ok place
  else if name = ".." then .ok place.dropLast
  else
    match tree.linkAt? (place ++ [name]) with
    | none => .ok (place ++ [name])
    | some target => followed (if Text.beginsWith "/" target then [] else place) (splitSlashes target)

/-- The place that names stand for, links followed and everything else taken as it is written. Links lead to each
other `through` times at most; more often than there are links, they go in circles. -/
def settle (tree : Tree) : (through : Nat) → Place → List String → Except FileFault Place
  | 0, start, names => names.foldlM (tree.settleName fun _ _ => .error .tooManyLinks) start
  | fewer + 1, start, names => names.foldlM (tree.settleName (tree.settle fewer)) start

/-- The content of the file at a place. -/
def contentAt (tree : Tree) (place : Place) : Except FileFault ByteArray :=
  match tree.file? place with
  | some content =>
    if !(tree.access place).reads then .error .forbidden
    else if !(tree.access place).answers then .error .noDevice
    else .ok content
  | none => .error (if tree.isDirectory place then .directory else .missing)

/-- The content of the file that a path leads to as it is written. -/
def read (tree : Tree) (current : Place) (text : String) : Except FileFault ByteArray :=
  (tree.resolve current text).bind tree.contentAt

/-- The files below a place, by their way from there. -/
def filesBelow (tree : Tree) (place : Place) : List Place :=
  tree.files.filterMap fun (other, _) =>
    if place.isPrefixOf other && place != other then some (other.drop place.length) else none

/-- Whether a walk from a place comes to an entry below it: every directory on the way can be listed, and
each but the first lies in one that can be searched. -/
def isReachedByWalk (tree : Tree) (place below : Place) : Bool :=
  (List.range below.length).all fun depth =>
    (tree.access (place ++ below.take depth)).reads
      && (depth == 0 || (tree.access (place ++ below.take (depth - 1))).searches)

/-- What a walk from a place finds besides directories, by the way from there: files, and links that do not
lead to directories. -/
def walk (tree : Tree) (place : Place) : List Place :=
  let leaves := tree.links.filterMap fun (other, _) =>
    if place.isPrefixOf other && place != other
        && !((tree.follow [] other).map tree.isDirectory).getD false then
      some (other.drop place.length)
    else none
  (tree.filesBelow place ++ leaves).filter (tree.isReachedByWalk place)

/-- The tree with one file written: new, or in place of what it held. -/
def write (tree : Tree) (place : Place) (content : ByteArray) : Tree :=
  if tree.isFile place then
    { tree with files := tree.files.map fun (other, old) =>
        if other = place then (other, content) else (other, old) }
  else { tree with files := tree.files ++ [(place, content)] }

/-- The tree without a place and everything below it. -/
def remove (tree : Tree) (place : Place) : Tree where
  files := tree.files.filter fun (other, _) => !place.isPrefixOf other
  directories := tree.directories.filter fun other => !place.isPrefixOf other
  links := tree.links.filter fun (other, _) => !place.isPrefixOf other
  limits := tree.limits.filter fun (other, _) => !place.isPrefixOf other

/-- The tree with an empty directory. -/
def addDirectory (tree : Tree) (place : Place) : Tree :=
  { tree with directories := tree.directories ++ [place] }

/-- The tree with a link, in place of one that was there. -/
def addLink (tree : Tree) (place : Place) (target : String) : Tree :=
  { tree with links := (place, target) :: tree.links.filter fun (other, _) => other != place }

/-- The tree in which only the given things may be done with a place. -/
def limit (tree : Tree) (place : Place) (access : Access) : Tree :=
  { tree with limits := (place, access) :: tree.limits.filter fun (other, _) => other != place }

end Tree

/-- The place a path names when double dots are taken as written, whether it exists or not. -/
def absolutePlace (current : Place) (path : Path) : Place :=
  path.parts.foldl (fun place part => if part = ".." then place.dropLast else place ++ [part])
    (if path.isAbsolute then [] else current)

end SelectionGen.Files
