import SelectionGen.CommandLine.Run

/-! The program. It looks at the places that its arguments name, runs on what is there, prints what the run
says and writes the files that the run leaves. -/
namespace SelectionGen.CommandLine

open Files

/-- The arguments behind the name of the command. -/
def commandArguments (arguments : List String) : List String :=
  match programOptions.scan false arguments with
  | .ok (_, _ :: rest) => rest
  | _ => []

/-- The paths that arguments name as values of one of the given options. -/
def namedPaths (options : List GenerateOption) (arguments : List String) : List String :=
  match generateOptions.scan true (commandArguments arguments) with
  | .ok (given, _) => options.flatMap fun option => valuesOf given option
  | .error _ => []

/-- The schema paths that the content of a file with settings names. -/
def schemaPathsOf (content : ByteArray) : List Path :=
  match Text.Utf8.decode content with
  | .error _ => []
  | .ok text =>
    match Settings.ofText text with
    | .ok settings => settings.schemaPaths
    | .error _ => []

/-- The entries of a directory, unless the place is none. -/
def entries? (place : Place) : IO (Option (List String)) := do
  try
    let entries ← ((← IO.currentDir) / renderPlace place).readDir
    return some (entries.toList.map fun entry => entry.fileName)
  catch _ => return none

def content? (place : Place) : IO (Option ByteArray) := do
  try return some (← IO.FS.readBinFile (renderPlace place)) catch _ => return none

/-- Adds a place and everything below it to a tree, if it is there. -/
partial def lookAt (tree : Tree) (place : Place) : IO Tree := do
  match ← entries? place with
  | some names => names.foldlM (fun tree name => lookAt tree (place ++ [name])) (tree.addDirectory place)
  | none =>
    match ← content? place with
    | some content => return tree.write place content
    | none => return tree

/-- Adds the directories above a place to a tree, up to the first that is none, which may be a file. -/
def lookAbove (tree : Tree) (place : Place) : IO Tree :=
  (List.range place.length).foldlM (fun tree size => do
    let above := place.take size
    match ← entries? above with
    | some _ => return tree.addDirectory above
    | none =>
      match ← content? above with
      | some content => return tree.write above content
      | none => return tree) tree

/-- Adds what a path leads to, and the way there, to a tree. -/
def lookAtPath (current : Place) (tree : Tree) (path : Path) : IO Tree := do
  let place := absolutePlace current path
  lookAt (← lookAbove tree place) place

/-- The part of the file system that arguments are about. What is in the directory to write to does not
matter to a run, only what is on the way there. -/
def lookAround (current : Place) (arguments : List String) : IO Tree := do
  let named := (namedPaths [.schema, .settings] arguments).map Path.ofString
  let tree ← named.foldlM (lookAtPath current) { directories := [current] }
  let settings := (namedPaths [.settings] arguments).filterMap fun path =>
    (tree.find? current path).bind tree.file?
  let tree ← (settings.flatMap schemaPathsOf).foldlM (lookAtPath current) tree
  (namedPaths [.output] arguments).foldlM (fun tree path =>
    lookAbove tree (absolutePlace current (Path.ofString path) ++ ["."])) tree

/-- Writes the files that were not there before, or had other contents. -/
def writeChanges (before after : Tree) : IO Unit :=
  after.files.forM fun (place, content) => do
    if (before.file? place).map ByteArray.toList ≠ some content.toList then
      IO.FS.createDirAll (renderPlace place.dropLast)
      IO.FS.writeBinFile (renderPlace place) content

end SelectionGen.CommandLine

open SelectionGen CommandLine Files in
def main (arguments : List String) : IO UInt32 := do
  let current := absolutePlace [] (Path.ofString (← IO.currentDir).toString)
  let tree ← lookAround current arguments
  let report := run ⟨tree, current, fun index => ["tmp", "schema-" ++ toString index]⟩ arguments
  report.lines.forM fun line => IO.println line
  report.ending.lines.forM fun line => IO.eprintln line
  match report.ending with
  | .broken breakdown => IO.eprintln breakdown.message
  | _ => pure ()
  writeChanges tree report.tree
  return report.ending.exitCode.toUInt32
