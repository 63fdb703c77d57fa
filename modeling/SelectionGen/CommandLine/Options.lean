import SelectionGen.Text.Similarity
import SelectionGen.Text.Split

/-! Options among the arguments of a command. An option is given by its long name, with a value behind an
equals sign or in the next argument, or by its letter, with a value right behind it or in the next
argument; letters without values may share one dash. Two dashes alone end the options. -/
namespace SelectionGen.CommandLine

/-- How an option is written. -/
structure OptionForm where
  long : String
  short? : Option Char
  takesValue : Bool

/-- The options of a command, each with its form. -/
structure OptionSet (ω : Type) where
  all : List ω
  form : ω → OptionForm

/-- An option that was given, with its value; a value of an option that takes none is empty. -/
structure Given (ω : Type) where
  option : ω
  value : String

inductive OptionFault
  | unknown (name : String) (similar : List String)
  | valueMissing (name : String)
  | valueUnwanted (name : String)
deriving DecidableEq, Repr

/-- What one argument gives, and whether it took the next one as a value. -/
structure Reading (ω : Type) where
  given : List (Given ω)
  tookNext : Bool

namespace OptionSet

variable {ω : Type} (options : OptionSet ω)

def longNames : List String := options.all.map fun option => (options.form option).long

def ofLong? (name : String) : Option ω :=
  options.all.find? fun option => (options.form option).long == name

def ofShort? (letter : Char) : Option ω :=
  options.all.find? fun option => (options.form option).short? == some letter

/-- An option named `name` with the value that stands with it, or else with the next argument. -/
def reading (option : ω) (name : String) (attached? : Option String) (next? : Option String) :
    Except OptionFault (Reading ω) :=
  if (options.form option).takesValue then
    match attached?, next? with
    | some value, _ => .ok ⟨[⟨option, value⟩], false⟩
    | none, some value => .ok ⟨[⟨option, value⟩], true⟩
    | none, none => .error (.valueMissing name)
  else if attached?.isSome then .error (.valueUnwanted name)
  else .ok ⟨[⟨option, ""⟩], false⟩

/-- Options given by their letters. Behind the letter of an option that takes a value stands the value. -/
def readLetters (next? : Option String) : List Char → Except OptionFault (Reading ω)
  | [] => .ok ⟨[], false⟩
  | letter :: rest =>
    let name := String.ofList ['-', letter]
    match options.ofShort? letter with
    | none => .error (.unknown name [])
    | some option =>
      if (options.form option).takesValue then
        options.reading option name (if rest.isEmpty then none else some (String.ofList rest)) next?
      else do
        let here ← options.reading option name none next?
        let behind ← readLetters next? rest
        return ⟨here.given ++ behind.given, behind.tookNext⟩

/-- Reads an argument that begins with a dash. -/
def readArgument (argument : String) (next? : Option String) : Except OptionFault (Reading ω) :=
  let characters := argument.toList
  let name := String.ofList (characters.takeWhile fun c => c != '=')
  let attached? := match characters.dropWhile fun c => c != '=' with
    | [] => none
    | _ :: value => some (String.ofList value)
  match options.ofLong? name with
  | some option => options.reading option name attached? next?
  | none =>
    if Text.beginsWith "--" argument then
      .error (.unknown name (Text.closeWords name options.longNames))
    else options.readLetters next? (characters.drop 1)

/-- Whether an argument is read as options: a dash alone is not. -/
def isOption (argument : String) : Bool := Text.beginsWith "-" argument && argument != "-"

/-- The options among arguments, and the other arguments. If `mixed` is false, options end at the first
other argument. -/
def scan (mixed : Bool) : List String → Except OptionFault (List (Given ω) × List String)
  | [] => .ok ([], [])
  | argument :: rest =>
    if argument = "--" then .ok ([], rest)
    else if isOption argument then do
      let found ← options.readArgument argument rest.head?
      let (given, others) ← if found.tookNext then scan mixed rest.tail else scan mixed rest
      return (found.given ++ given, others)
    else if mixed then do
      let (given, others) ← scan mixed rest
      return (given, argument :: others)
    else .ok ([], argument :: rest)
termination_by arguments => arguments.length
decreasing_by all_goals simp +arith

end OptionSet

end SelectionGen.CommandLine
