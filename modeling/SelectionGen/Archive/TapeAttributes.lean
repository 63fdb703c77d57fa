import SelectionGen.Archive.Tape
import SelectionGen.Files.Write
import SelectionGen.Number.FloatingPoint

/-! What members of a tape are given when they are there: an owner, what may be done with them, and the moment
of their last change. What the system refuses is left as it is, and so is all that would come after; what
cannot even be asked for is a fault. -/
namespace SelectionGen.Archive

open Files

/-- How what is to be given can be wrong. -/
inductive AttributeFault
  | zeroInName
  | userTooLow
  | userTooHigh
  | groupTooLow
  | groupTooHigh
  | numberTooLarge
  | momentTooFar
  | noMoment
deriving DecidableEq, Repr

def AttributeFault.message : AttributeFault → String
  | zeroInName => "embedded null byte"
  | userTooLow => "uid is less than minimum"
  | userTooHigh => "uid is greater than maximum"
  | groupTooLow => "gid is less than minimum"
  | groupTooHigh => "gid is greater than maximum"
  | numberTooLarge => "Python int too large to convert to C int"
  | momentTooFar => "timestamp out of range for platform time_t"
  | noMoment => "Invalid value NaN (not a number)"

/-- The users that the system knows by name. -/
def knownUsers : List (String × Int) :=
  [("root", 0), ("daemon", 1), ("bin", 2), ("sys", 3), ("sync", 4), ("games", 5), ("man", 6), ("lp", 7),
    ("mail", 8), ("news", 9), ("uucp", 10), ("proxy", 13), ("www-data", 33), ("backup", 34), ("list", 38),
    ("irc", 39), ("_apt", 42), ("nobody", 65534)]

/-- The groups that the system knows by name. -/
def knownGroups : List (String × Int) :=
  [("root", 0), ("daemon", 1), ("bin", 2), ("sys", 3), ("adm", 4), ("tty", 5), ("disk", 6), ("lp", 7),
    ("mail", 8), ("news", 9), ("uucp", 10), ("man", 12), ("proxy", 13), ("kmem", 15), ("dialout", 20),
    ("fax", 21), ("voice", 22), ("cdrom", 24), ("floppy", 25), ("tape", 26), ("sudo", 27), ("audio", 29),
    ("dip", 30), ("www-data", 33), ("backup", 34), ("operator", 37), ("list", 38), ("irc", 39), ("src", 40),
    ("shadow", 42), ("utmp", 43), ("video", 44), ("sasl", 45), ("plugdev", 46), ("staff", 50), ("games", 60),
    ("users", 100), ("nogroup", 65534)]

/-- Numbers of owners are below this limit. The last of them says to leave the owner as it is. -/
def ownerLimit : Int := 0x100000000

/-- The number of an owner as the system takes it. -/
def ownerNumber (value : Int) (low high : AttributeFault) : Except AttributeFault Int :=
  if value = -1 ∨ (0 ≤ value ∧ value < ownerLimit) then .ok (value % ownerLimit)
  else .error (if countLimit ≤ value then high else low)

/-- Whether the system gives a member to an owner. It does not give anything away. -/
def Owner.isGranted (owner : Owner) : Except AttributeFault Bool := do
  if owner.groupName.contains '\x00' ∨ owner.userName.contains '\x00' then throw .zeroInName
  let user ← ownerNumber ((knownUsers.lookup owner.userName).getD owner.user) .userTooLow .userTooHigh
  let group ← ownerNumber ((knownGroups.lookup owner.groupName).getD owner.group) .groupTooLow .groupTooHigh
  let isOwn (number : Int) : Bool := number == 0 || number == ownerLimit - 1
  return isOwn user && isOwn group

/-- The system takes such numbers as are signed and have 32 bits. -/
def checkNumber (value : Int) : Except AttributeFault Unit :=
  if -0x80000000 ≤ value ∧ value < 0x80000000 then .ok () else .error .numberTooLarge

/-- A moment has to be so many seconds away that 64 bits with a sign can tell. A decimal number is first
rounded. -/
def Moment.check : Moment → Except AttributeFault Unit
  | .whole seconds => if -countLimit ≤ seconds ∧ seconds < countLimit then .ok () else .error .momentTooFar
  | .decimal .notANumber => .error .noMoment
  | .decimal (.infinite _) => .error .momentTooFar
  | .decimal (.finite isNegative mantissa exponent) =>
    match Number.FloatingPoint.ofDecimal? mantissa exponent with
    | none => .error .momentTooFar
    | some number =>
      let top := number.significand.log2 + number.exponent
      let isLast := isNegative && top = 63 && number.significand = Nat.pow 2 number.significand.log2
      if number.significand = 0 || top < 63 || isLast then .ok () else .error .momentTooFar

/-- What the owner may do, told by the bits of a mode. -/
def accessOf (mode : Int) : Access :=
  let bits := (mode % 0x1000).toNat
  { reads := bits.testBit 8, writes := bits.testBit 7, searches := bits.testBit 6 }

/-- Whether a path leads to something that can be changed. -/
def canChange (tree : Tree) (path : String) : Bool :=
  match tree.placeOf false path with
  | .ok place => tree.isPresent place && (tree.access place).changes
  | .error _ => false

/-- A tree in which what is at a path has what is told of it, and whether the system granted all of it. A link
only gets its owner. -/
def Description.settle (told : Description) (momentFirst : Bool) (path : String) (tree : Tree) :
    Except AttributeFault (Tree × Bool) := do
  let isGranted ← told.owner.isGranted
  if told.kind = .link then return (tree, isGranted)
  if !(isGranted && canChange tree path) then return (tree, false)
  if momentFirst then told.moment.check
  checkNumber told.mode
  told.moment.check
  return (tree.limitPath path (accessOf told.mode), true)

end SelectionGen.Archive
