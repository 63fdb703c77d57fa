import SelectionGen.Files.Tree
import SelectionGen.Journal
import SelectionGen.Sdl.Reader
import SelectionGen.Text.Utf8

/-! Loading a schema from files and inline texts. Which files are read and in which order depends only on
the set of their paths: they are sorted by path, whatever order paths are listed or directories are
walked in. Inline texts follow in the order given. The first source that cannot be read ends it. -/
namespace SelectionGen.Schema

open Files

/-- A source of definitions: a file with what reading it gives, or an inline text, which is known by its
position. -/
inductive Source
  | file (path : String) (content : Except FileFault ByteArray)
  | inline (index : Nat) (text : String)

/-- The last part of a path, or the position of an inline text. -/
def Source.label : Source → String
  | .file path _ => (splitSlashes path).getLastD ""
  | .inline index _ => "<schema " ++ toString index ++ ">"

/-- Why a source could not be loaded. -/
inductive LoadError
  | zeroInPath
  | reading (error : FileError)
  | encoding (error : Text.Utf8.DecodeError)
  | grammar (text : String) (error : Sdl.SyntaxError)
deriving DecidableEq, Repr

/-- Only files with one of these endings hold schemas. -/
def schemaEndings : List String := [".graphqls", ".graphql"]

def isSchemaName (name : String) : Bool := schemaEndings.any (Text.endsWith · name)

/-- The schema files that one path stands for, by the paths they are read by: the file itself, or those below
the directory. A path that leads nowhere stands for none, unless it is too long or the way is barred. -/
def filesOfPath (tree : Tree) (current : Place) (path : Path) : Except LoadError (List String) := do
  let written := path.render
  if written.contains '\x00' then throw .zeroInPath
  let refused (fault : FileFault) := LoadError.reading ⟨fault, some written⟩
  if Tree.pathLimit < written.utf8ByteSize then throw (refused .nameTooLong)
  match tree.reach false Tree.linkLimit (if path.isAbsolute then [] else current) path.parts with
  | .error fault =>
    if fault = .nameTooLong ∨ fault = .forbidden then throw (refused fault) else return []
  | .ok place =>
    if tree.isRegular place then
      return if isSchemaName path.name then [written] else []
    else
      return ((tree.walk place).filter fun below => isSchemaName (below.getLastD "")).map fun below =>
        join written ("/".intercalate below)

/-- The order in which files are read. -/
def inOrder (files : List String) : List String := files.mergeSort fun a b => decide (a ≤ b)

/-- All sources in the order they are read. -/
def sources (tree : Tree) (current : Place) (paths : List Path) (texts : List String) :
    Except LoadError (List Source) := do
  let found ← paths.mapM (filesOfPath tree current)
  return (inOrder found.flatten).map (fun path => .file path (tree.read current path))
    ++ texts.mapIdx fun index text => .inline index text

/-- The text of a source; in a file every line end becomes one line feed. -/
def Source.text : Source → Except LoadError String
  | .file path content => do
    let text ← (Text.Utf8.decode (← (atPath path content).mapError .reading)).mapError .encoding
    return String.ofList (Text.unifyLineEnds text.toList)
  | .inline _ text => .ok text

def Source.read (source : Source) : Except LoadError Sdl.Document := do
  let text ← source.text
  (Sdl.Document.read text).mapError (.grammar text)

/-- How far loading got: the outcome, the label of the last source looked at (empty if there was none),
and what was reported. -/
structure Loading where
  outcome : Except LoadError Sdl.Document
  current : String
  journal : Journal

/-- A rejected source is reported only when its grammar is at fault. -/
def LoadError.journal (label : String) : LoadError → Journal
  | .zeroInPath => []
  | .reading _ => []
  | .encoding _ => []
  | .grammar _ error => [.sourceRejected label error]

/-- Reads sources in order, appending their definitions. `current` is the label of the source before. -/
def readSources (current : String) : List Source → Loading
  | [] => ⟨.ok [], current, []⟩
  | source :: rest =>
    match source.read with
    | .error error => ⟨.error error, source.label, error.journal source.label⟩
    | .ok document =>
      let behind := readSources source.label rest
      { behind with outcome := behind.outcome.map (document ++ ·) }

/-- Loads the schema of the given paths and inline texts. -/
def load (tree : Tree) (current : Place) (paths : List Path) (texts : List String) : Loading :=
  match sources tree current paths texts with
  | .error error => ⟨.error error, "", []⟩
  | .ok found =>
    let loading := readSources "" found
    match loading.outcome with
    | .ok _ => { loading with journal := loading.journal ++ [.sourcesRead found.length] }
    | .error _ => loading

end SelectionGen.Schema
