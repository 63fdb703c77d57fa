import SelectionGen.Text.Split

/-! Paths as they are written. Writing a path drops empty parts and single dots and keeps double dots,
because what a double dot leads to depends on the file tree. -/
namespace SelectionGen.Files

/-- The parts between the slashes of a text. -/
def splitSlashes (text : String) : List String := Text.pieces '/' text

/-- A path with its root, which is empty for a relative path, and its parts. -/
structure Path where
  root : String := ""
  parts : List String := []
deriving DecidableEq, Repr

namespace Path

/-- How many slashes a text begins with. -/
def leadingSlashes (text : String) : Nat :=
  (text.toList.takeWhile fun c => c == '/').length

/-- Two slashes at the start are a root of their own; any other number of them is the common root. -/
def ofString (text : String) : Path where
  root := match leadingSlashes text with
    | 0 => ""
    | 2 => "//"
    | _ => "/"
  parts := (splitSlashes text).filter fun part => part ≠ "" ∧ part ≠ "."

def render (path : Path) : String :=
  match path.root, path.parts with
  | "", [] => "."
  | root, parts => root ++ "/".intercalate parts

def isAbsolute (path : Path) : Bool := path.root ≠ ""

/-- The last part, empty if there is none. -/
def name (path : Path) : String := path.parts.getLastD ""

/-- The part of the name from its last dot on, if something stands before and behind that dot. -/
def suffix (path : Path) : String :=
  let reversed := path.name.toList.reverse
  let tail := reversed.takeWhile fun c => c != '.'
  match reversed.dropWhile fun c => c != '.' with
  | _ :: _ :: _ => if tail.isEmpty then "" else String.ofList ('.' :: tail.reverse)
  | _ => ""

/-- The path with every double dot undone by the part in front of it. At the root a double dot leads
nowhere else. -/
def normal (path : Path) : Path :=
  let parts := path.parts.foldl (fun parts part =>
    if part ≠ ".." ∨ (parts.getLastD "..") = ".." && !(path.isAbsolute && parts.isEmpty) then
      parts ++ [part]
    else parts.dropLast) []
  { path with parts }

end Path

/-- A path below a directory that is written `base`. No text at all stands for the directory that paths are
read in. -/
def join (base below : String) : String :=
  if base = "" ∨ Text.endsWith "/" base then base ++ below else base ++ "/" ++ below

end SelectionGen.Files
