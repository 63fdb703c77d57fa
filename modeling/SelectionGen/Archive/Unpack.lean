import SelectionGen.Archive.TapeAttributes
import SelectionGen.Archive.Zip

/-! Unpacking a tape into a directory. Members are unpacked one after the other, so that a link can lead
further ones elsewhere; what directories are given is settled when all is unpacked. Paths are taken as
they are and may lead out of the directory. -/
namespace SelectionGen.Archive

open Files

/-- How unpacking a tape can fail. -/
inductive UnpackFault
  | tape (fault : TapeFault)
  | linkMissing (target : String)
  | zeroInPath
  | endless
  | unsettled (fault : AttributeFault)
  | files (error : FileError)
deriving DecidableEq

def UnpackFault.message : UnpackFault → String
  | tape fault => fault.message
  | linkMissing target => Text.quoted ("linkname " ++ Text.quoted target ++ " not found")
  | zeroInPath => "embedded null byte"
  | endless => "maximum recursion depth exceeded"
  | unsettled fault => fault.message
  | files error => error.message

/-- A path as it is below a directory, or itself if it begins at the root. -/
def below (directory path : String) : String :=
  if Text.beginsWith "/" path then path else join directory path

/-- What a link stands for among members: for a link by path, any of that path next to it, for the same file
under another path, one in front of it. The last one counts. -/
def linkTarget? (members : List TapeMember) (index : Nat) (member : TapeMember) :
    Except String (Nat × TapeMember) :=
  let beside := parentPath member.path
  let path := if member.kind = .link && beside ≠ "" then
      if member.target = "" then beside else beside ++ "/" ++ member.target
    else member.target
  let bound := if member.kind = .link then members.length else index
  let wanted := (Path.ofString path).normal.render
  match ((members.take bound).zipIdx.reverse.find? fun (other, _) =>
    (Path.ofString other.path).normal.render = wanted) with
  | some (other, place) => .ok (place, other)
  | none => .error path

/-- Makes a link in place of what is at a path, and tells whether that worked. What was there is gone even if
the link cannot be made. -/
def replaceByLink (tree : Tree) (path target : String) : Tree × Bool :=
  let isTaken := match tree.placeOf true path with
    | .ok place => tree.isPresent place || tree.isLink place
    | .error _ => false
  match if isTaken then tree.unlink path else .ok tree with
  | .error _ => (tree, false)
  | .ok tree =>
    match tree.makeLink path target with
    | .ok linked => (linked, true)
    | .error _ => (tree, false)

/-- A device can be made by none but the system. -/
def makeDevice (tree : Tree) (path : String) : FileFault :=
  match tree.placeOfNew path with
  | .error fault => fault
  | .ok _ => .notPermitted

/-- The numbers of a device have to be such as the system takes. The mode may tell a kind of file as well,
which has to go with that of a device. -/
def checkDevice (member : TapeMember) : Except UnpackFault Unit := do
  (checkNumber member.device.1).mapError .unsettled
  (checkNumber member.device.2).mapError .unsettled
  (checkNumber member.mode).mapError .unsettled
  let kind := (member.mode / 0x1000 % 16).toNat
  if kind.testBit 0 || kind.testBit 3 then throw (.files ⟨.invalid, none⟩)

/-- What unpacking needs to know of the tape and where it is unpacked. -/
structure Unpacking where
  stream : Stream
  tape : Tape
  directory : String

namespace Unpacking

/-- What putting a member at a path gives: the tree, whether the member is there, and another path that it
can be found at. -/
structure Placed where
  tree : Tree
  isThere : Bool := true
  twin? : Option String := none

/-- A tree with a member at a path, and whether all of it was granted. `isOwn` tells that it is unpacked for
itself and not for a link. If something is in the way of a link, what the link stands for is unpacked
instead; if the tape does not have it, the link is left out. The same file under another path has to be
there or on the tape. Links that stand for each other never end. -/
def place (unpacking : Unpacking) :
    Nat → Nat → TapeMember → (isOwn : Bool) → String → Tree → Except UnpackFault (Tree × Bool)
  | 0, _, _, _, _, _ => .error .endless
  | bound + 1, index, member, isOwn, path, tree => do
    let path := withoutSlashes path
    if path.contains '\x00' then throw .zeroInPath
    let tree ← (tree.ensureParent path).mapError .files
    let standIn (missing : String → Except UnpackFault (Tree × Bool)) (tree : Tree) :
        Except UnpackFault Placed := do
      match unpacking.tape.fault? with
      | some fault => throw (.tape fault)
      | none =>
        let (tree, isThere) ← match linkTarget? unpacking.tape.members index member with
          | .error target => missing target
          | .ok (place, other) => unpacking.place bound place other false path tree
        return { tree, isThere }
    let placed : Placed ← match member.kind with
      | .directory =>
        match tree.makeDirectory path with
        | .ok tree => pure { tree }
        | .error error => if error.fault = .present then pure { tree } else throw (.files error)
      | .pipe => do
        let place ← (tree.placeOfNew path).mapError fun fault => .files ⟨fault, none⟩
        pure { tree := tree.write place .empty }
      | .stub => do
        checkDevice member
        let place ← (tree.placeOfNew path).mapError fun fault => .files ⟨fault, none⟩
        pure { tree := (tree.write place .empty).limitPath path
                { accessOf member.mode with answers := false } }
      | .device => do
        checkDevice member
        throw (.files ⟨makeDevice tree path, none⟩)
      | .link =>
        if member.target.contains '\x00' then throw .zeroInPath
        else
          match replaceByLink tree path member.target with
          | (tree, true) => pure { tree }
          | (tree, false) => standIn (fun _ => .ok (tree, false)) tree
      | .sameFile => do
        let source := below unpacking.directory member.target
        if isOwn && tree.hasPath source then
          match tree.duplicate source path with
          | .ok tree => pure { tree, twin? := some source }
          | .error _ => standIn (fun _ => .ok (tree, false)) tree
        else
          standIn (fun target => if isOwn then .error (.linkMissing target) else .ok (tree, false)) tree
      | _ => do
        let tree ← (tree.writeFile path .empty).mapError .files
        let content ← (member.content unpacking.stream).mapError .tape
        pure { tree := ← (tree.writeFile path content).mapError .files }
    if !placed.isThere || (isOwn && member.kind = .directory) then return (placed.tree, placed.isThere)
    let (tree, isGranted) ← (member.toDescription.settle false path placed.tree).mapError .unsettled
    match placed.twin? with
    | some twin => return (if isGranted then tree.limitPath twin (accessOf member.mode) else tree, isGranted)
    | none => return (tree, isGranted)

/-- Settles what directories are given, those with later names first. -/
def settleDirectories (unpacking : Unpacking) (tree : Tree) : Except UnpackFault Tree :=
  let directories := unpacking.tape.members.filter fun member => member.kind == .directory
  (directories.mergeSort fun a b => decide (b.path ≤ a.path)).foldlM (fun tree member => do
    let path := below unpacking.directory member.path
    return (← (member.toDescription.settle true path tree).mapError .unsettled).1) tree

end Unpacking

/-- A tree with all members of a packed tape unpacked into a directory. -/
def unpackTape (bytes : ByteArray) (directory : String) (tree : Tree) : Except UnpackFault Tree := do
  let stream := Stream.ofFile bytes
  let unpacking : Unpacking := ⟨stream, Tape.ofStream stream, directory⟩
  let members := unpacking.tape.members
  let tree ← members.zipIdx.foldlM (fun tree (member, index) => do
    let path := below directory member.path
    return (← unpacking.place (2 * members.length + 1) index member true path tree).1) tree
  match unpacking.tape.fault? with
  | some fault => throw (.tape fault)
  | none => unpacking.settleDirectories tree

/-! Unpacking an archive into a directory. Which kind of archive a file is told by its name. -/

/-- The kinds of archives that can be unpacked. -/
inductive Format
  | zip
  | packedTape
deriving DecidableEq, Repr

inductive ArchiveError
  | unsupportedFormat (ending : String)
  | zip (error : ZipError)
  | tape (fault : UnpackFault)
deriving DecidableEq

def ArchiveError.message : ArchiveError → String
  | unsupportedFormat ending => "Unsupported archive format: " ++ ending
  | zip error => error.message
  | tape fault => fault.message

/-- The endings of archives, in lower case. -/
def endings : List String := [".zip", ".tar.gz", ".tgz"]

/-- Whether a file is taken for an archive; the case of letters does not matter here. -/
def isArchiveName (name : String) : Bool :=
  endings.any fun ending => Text.endsWith ending (String.ofList (name.toList.map Char.toLower))

/-- How a file of the given name is unpacked; here the case of letters does matter. -/
def Format.ofName? (name : String) : Option Format :=
  if (Path.ofString name).suffix = ".zip" then some .zip
  else if Text.endsWith ".tar.gz" name || Text.endsWith ".tgz" name then some .packedTape
  else none

/-- A tree with all members of an archive unpacked into the directory with the given path. -/
def unpack (format : Format) (bytes : ByteArray) (directory : String) (tree : Tree) :
    Except ArchiveError Tree :=
  match format with
  | .zip => (unpackZip bytes directory tree).mapError .zip
  | .packedTape => (unpackTape bytes directory tree).mapError .tape

end SelectionGen.Archive
