import SelectionGen.Evaluation.Elements
import SelectionGen.Evaluation.FormatSpecifier

/-! Texts with fields in braces that values are put into. A field names an argument, possibly a member or an
element of it, a conversion and a specifier, in which there can be fields again. What is wrong with a
template is noticed where it is reached. -/
namespace SelectionGen.Evaluation.Template

open Target

/-- Whether fields are numbered by themselves, and how far they are. -/
inductive Numbering
  | open
  | automatic (next : Nat)
  | manual
deriving DecidableEq, Repr

/-- Where arguments come from. -/
structure Arguments where
  byPlace : Option (List Value)
  byName : String → Evaluated Value

/-- A field as it is spelled. -/
structure Field where
  name : List Char
  conversion : Option Char := none
  specifier : List Char := []

def refuseTemplate (message : String) : Evaluated α := raise "ValueError" message

/-- What follows the name of a field up to the brace that matches, `depth` braces being open. -/
def specifierOf : Nat → List Char → List Char → Evaluated (List Char × List Char)
  | _, _, [] => refuseTemplate "unmatched '\x7b' in format spec"
  | depth, taken, c :: rest =>
    if c = '\x7b' then specifierOf (depth + 1) (c :: taken) rest
    else if c = '\x7d' then
      if depth ≤ 1 then return (taken.reverse, rest) else specifierOf (depth - 1) (c :: taken) rest
    else specifierOf depth (c :: taken) rest

/-- Reads a field behind its brace, whose name has been read so far as given. Brackets in a name hide what is
in them; `isInside` says that one is open. -/
def fieldOf (isInside : Bool) (name : List Char) : List Char → Evaluated (Field × List Char)
  | [] => refuseTemplate "expected '\x7d' before end of string"
  | c :: rest =>
    if isInside then fieldOf (c ≠ ']') (c :: name) rest
    else if c = '\x7b' then refuseTemplate "unexpected '\x7b' in field name"
    else if c = '[' then fieldOf true (c :: name) rest
    else if c = '\x7d' then return ({ name := name.reverse }, rest)
    else if c = ':' then do
      let (specifier, rest) ← specifierOf 1 [] rest
      return ({ name := name.reverse, specifier }, rest)
    else if c = '!' then
      match rest with
      | [] => refuseTemplate "end of string while looking for conversion specifier"
      | conversion :: rest =>
        match rest with
        | '\x7d' :: rest => return ({ name := name.reverse, conversion := some conversion }, rest)
        | ':' :: rest => do
          let (specifier, rest) ← specifierOf 1 [] rest
          return ({ name := name.reverse, conversion := some conversion, specifier }, rest)
        | [] => refuseTemplate "unmatched '\x7b' in format spec"
        | _ => refuseTemplate "expected ':' after conversion specifier"
    else fieldOf false (c :: name) rest

/-- The number that a text spells, if it is one. -/
def numberOf? (text : List Char) : Evaluated (Option Nat) := do
  if text.isEmpty || !text.all Char.isDigit then return none
  else if 18 < text.length then refuseTemplate "Too many decimal digits in format string"
  else return some (FormatSpecifier.digitsOf text)

/-- The argument at a place. -/
def argumentAt (arguments : Arguments) (place : Nat) : Evaluated Value := do
  match arguments.byPlace with
  | none => refuseTemplate "Format string contains positional fields"
  | some values =>
    match values[place]? with
    | some value => return value
    | none =>
      raise "IndexError"
        ("Replacement index " ++ toString place ++ " out of range for positional args tuple")

/-- Goes from a value to members and elements, as a name says. -/
def goOn : Nat → Value → List Char → Evaluated Value
  | 0, value, _ => return value
  | _, value, [] => return value
  | count + 1, value, '.' :: rest => do
    let name := rest.takeWhile fun c => c != '.' && c != '['
    if name.isEmpty then refuseTemplate "Empty attribute in format string"
    goOn count (← memberOf value (String.ofList name)) (rest.drop name.length)
  | count + 1, value, '[' :: rest => do
    let key := rest.takeWhile fun c => c != ']'
    if key.length = rest.length then refuseTemplate "Missing ']' in format string"
    if key.isEmpty then refuseTemplate "Empty attribute in format string"
    let found := match ← numberOf? key with
      | some number => Value.whole number
      | none => .text (String.ofList key)
    goOn count (← elementOf value found) (rest.drop (key.length + 1))
  | _, _, _ =>
    refuseTemplate "Only '.' or '[' may follow ']' in format field specifier"

/-- The value that a name stands for, and how fields are numbered from then on. -/
def valueOf (arguments : Arguments) (numbering : Numbering) (name : List Char) :
    Evaluated (Value × Numbering) := do
  let first := name.takeWhile fun c => c != '.' && c != '['
  let rest := name.drop first.length
  let (value, numbering) ← do
    if first.isEmpty then
      match numbering with
      | .manual =>
        refuseTemplate "cannot switch from manual field specification to automatic field numbering"
      | .automatic next => pure (← argumentAt arguments next, Numbering.automatic (next + 1))
      | .open => pure (← argumentAt arguments 0, .automatic 1)
    else
      match ← numberOf? first with
      | some place =>
        match numbering with
        | .automatic _ =>
          refuseTemplate "cannot switch from automatic field numbering to manual field specification"
        | _ => pure (← argumentAt arguments place, .manual)
      | none => pure (← arguments.byName (String.ofList first), numbering)
  return (← goOn name.length value rest, numbering)

/-- A text with everything but plain characters escaped. -/
def escaped (text : String) : String :=
  String.ofList <| text.toList.flatMap fun c =>
    if c.toNat < 128 then [c]
    else if c.toNat < 0x100 then '\\' :: 'x' :: Text.Quoted.hexDigits 2 c.toNat
    else if c.toNat < 0x10000 then '\\' :: 'u' :: Text.Quoted.hexDigits 4 c.toNat
    else '\\' :: 'U' :: Text.Quoted.hexDigits 8 c.toNat

/-- A value after a conversion. -/
def converted (value : Value) (conversion : Option Char) : Evaluated Value := do
  match conversion with
  | none => return value
  | some 's' => return .text (← textOf value)
  | some 'r' => return .text (← describe value)
  | some 'a' => return .text (escaped (← describe value))
  | some c => refuseTemplate ("Unknown conversion specifier " ++ String.ofList [c])

/-- Puts values into a template. `depth` says how deep fields can be in one another, `count` how many there
can be. -/
def fill (arguments : Arguments) : Nat → Nat → Numbering → List Char → List Char →
    Evaluated (List Char × Numbering)
  | 0, _, _, _, _ => giveUp
  | _, 0, _, _, _ => refuseTemplate "Max string recursion exceeded"
  | _, _, numbering, taken, [] => return (taken.reverse, numbering)
  | count + 1, depth + 1, numbering, taken, c :: rest => do
    if c = '\x7b' then
      match rest with
      | [] => refuseTemplate "Single '\x7b' encountered in format string"
      | '\x7b' :: rest => fill arguments count (depth + 1) numbering (c :: taken) rest
      | _ =>
        let (field, rest) ← fieldOf false [] rest
        let (value, numbering) ← valueOf arguments numbering field.name
        let value ← converted value field.conversion
        let (specifier, numbering) ←
          if field.specifier.contains '\x7b' then
            fill arguments count depth numbering [] field.specifier
          else pure (field.specifier, numbering)
        let shown ← format value (String.ofList specifier)
        fill arguments count (depth + 1) numbering (shown.toList.reverse ++ taken) rest
    else if c = '\x7d' then
      match rest with
      | '\x7d' :: rest => fill arguments count (depth + 1) numbering (c :: taken) rest
      | _ => refuseTemplate "Single '\x7d' encountered in format string"
    else fill arguments count (depth + 1) numbering (c :: taken) rest

/-- A template with values put into its fields. -/
def filled (arguments : Arguments) (template : String) : Evaluated String := do
  let text := template.toList
  let (found, _) ← fill arguments (text.length + 1) 2 .open [] text
  return String.ofList found

end SelectionGen.Evaluation.Template
