import SelectionGen.Text.Printable

/-! What can go wrong with files, by the number and the words that the system has for it. -/
namespace SelectionGen.Files

inductive FileFault
  | notPermitted
  | missing
  | noDevice
  | forbidden
  | present
  | notDirectory
  | directory
  | invalid
  | nameTooLong
  | tooManyLinks
deriving DecidableEq, Repr

namespace FileFault

def number : FileFault → Nat
  | notPermitted => 1
  | missing => 2
  | noDevice => 6
  | forbidden => 13
  | present => 17
  | notDirectory => 20
  | directory => 21
  | invalid => 22
  | nameTooLong => 36
  | tooManyLinks => 40

def words : FileFault → String
  | notPermitted => "Operation not permitted"
  | missing => "No such file or directory"
  | noDevice => "No such device or address"
  | forbidden => "Permission denied"
  | present => "File exists"
  | notDirectory => "Not a directory"
  | directory => "Is a directory"
  | invalid => "Invalid argument"
  | nameTooLong => "File name too long"
  | tooManyLinks => "Too many levels of symbolic links"

end FileFault

/-- A fault and the path it was met at, as that path was written, if one is named. -/
structure FileError where
  fault : FileFault
  path? : Option String
deriving DecidableEq, Repr

namespace FileError

def message (error : FileError) : String :=
  "[Errno " ++ toString error.fault.number ++ "] " ++ error.fault.words
    ++ match error.path? with
      | some path => ": " ++ Text.quoted path
      | none => ""

end FileError

/-- Names the path that a fault was met at. -/
def atPath (path : String) (result : Except FileFault α) : Except FileError α :=
  result.mapError fun fault => ⟨fault, some path⟩

end SelectionGen.Files
