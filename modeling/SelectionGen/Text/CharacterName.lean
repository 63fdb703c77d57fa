import SelectionGen.Text.CharacterName.Aliases
import SelectionGen.Text.CharacterName.Ancient
import SelectionGen.Text.CharacterName.Eastern
import SelectionGen.Text.CharacterName.Music
import SelectionGen.Text.CharacterName.Pictographs
import SelectionGen.Text.CharacterName.Pictures
import SelectionGen.Text.CharacterName.Presentation
import SelectionGen.Text.CharacterName.Syllables
import SelectionGen.Text.CharacterName.Symbols
import SelectionGen.Text.CharacterName.Western
import SelectionGen.Text.Split

/-! Names of characters by which a text can spell them. Most are listed; names of ideographs, and of the
characters of some large scripts, end in the code point, and names of Korean syllables are put together
from their sounds. Capital and small letters count as the same, except in the names of unified ideographs
and of syllables. -/
namespace SelectionGen.Text
namespace CharacterName

/-- All lists of names, each cut into lines. -/
def lists : List (List String) :=
  [western, eastern, symbols, syllables, presentation, ancient, pictures, music, pictographs, aliases]

def upperHexValue? (c : Char) : Option Nat :=
  if '0' ≤ c ∧ c ≤ '9' then some (c.toNat - '0'.toNat)
  else if 'A' ≤ c ∧ c ≤ 'F' then some (c.toNat - 'A'.toNat + 10)
  else none

/-- The number that digits of base sixteen spell, whose letters have to be capitals. -/
def upperHexNumber? (digits : List Char) : Option Nat :=
  digits.foldlM (fun value digit => do return value * 16 + (← upperHexValue? digit)) 0

/-- The code point and the words of an entry, given those of the entry before. -/
def entryBehind (before : Nat × List (List Char)) (entry : List Char) : Nat × List (List Char) :=
  let (code, name) := match splitAt '=' entry with
    | [given, name] => ((upperHexNumber? given).getD 0, name)
    | _ => (before.1 + 1, entry)
  match name with
  | digit :: words =>
    (code, before.2.take (digit.toNat - '0'.toNat) ++ if words.isEmpty then [] else splitAt ' ' words)
  | [] => (code, [])

/-- The code point that a list has for a name, which is given by its words. -/
def findIn (words : List (List Char)) (list : List String) : Option Nat :=
  (((String.join list).splitOn "|").foldl (fun (before, found) entry =>
    let here := entryBehind before entry.toList
    (here, if here.2 == words then some here.1 else found)) ((0, []), none)).2

/-- The code points of the unified ideographs. -/
def ideographs : List (Nat × Nat) :=
  [(0x3400, 0x4dbf), (0x4e00, 0x9fff), (0x20000, 0x2a6df), (0x2a700, 0x2b738), (0x2b740, 0x2b81d),
    (0x2b820, 0x2cea1), (0x2ceb0, 0x2ebe0), (0x30000, 0x3134a)]

/-- How the names begin that end in the code point, and the code points that have such names. -/
def numbered : List (String × List (Nat × Nat)) :=
  [("CJK COMPATIBILITY IDEOGRAPH-", [(0xf900, 0xfa6d), (0xfa70, 0xfad9), (0x2f800, 0x2fa1d)]),
    ("KHITAN SMALL SCRIPT CHARACTER-", [(0x18b00, 0x18cd5)]), ("NUSHU CHARACTER-", [(0x1b170, 0x1b2fb)])]

/-- What follows the beginning of a name. -/
def behind? (start : String) (name : List Char) : Option (List Char) :=
  if start.toList.isPrefixOf name then some (name.drop start.length) else none

/-- The code point at the end of a name, if it is written with four or five digits and in a range. -/
def numberIn? (ranges : List (Nat × Nat)) (digits : List Char) : Option Nat :=
  if digits.length == 4 || digits.length == 5 then
    (upperHexNumber? digits).filter fun number =>
      ranges.any fun (first, last) => decide (first ≤ number ∧ number ≤ last)
  else none

def ofIdeograph? (name : List Char) : Option Nat := do
  numberIn? ideographs (← behind? "CJK UNIFIED IDEOGRAPH-" name)

/-- A code point in a name has no superfluous digits. -/
def ofNumbered? (name : List Char) : Option Nat :=
  numbered.findSome? fun (start, ranges) => do
    let digits ← behind? start name
    if digits.head? = some '0' then none else numberIn? ranges digits

/-- The code point of a pattern of raised dots, which are numbered from one to eight and listed in order. -/
def ofDots? (name : List Char) : Option Nat := do
  let dots := (← behind? "BRAILLE PATTERN DOTS-" name).map fun c => c.toNat - '0'.toNat
  let isAscending := (dots.zip (dots.drop 1)).all fun (dot, next) => dot < next
  if dots.isEmpty || !isAscending || dots.any fun dot => dot < 1 || 8 < dot then none
  else some (dots.foldl (fun code dot => code + Nat.pow 2 (dot - 1)) 0x2800)

/-- The sounds that a Korean syllable can begin with. -/
def initials : List String :=
  ["G", "GG", "N", "D", "DD", "R", "M", "B", "BB", "S", "SS", "", "J", "JJ", "C", "K", "T", "P", "H"]

/-- The vowels of Korean syllables. -/
def vowels : List String :=
  ["A", "AE", "YA", "YAE", "EO", "E", "YEO", "YE", "O", "WA", "WAE", "OE", "YO", "U", "WEO", "WE", "WI",
    "YU", "EU", "YI", "I"]

/-- The sounds that a Korean syllable can end with. -/
def finals : List String :=
  ["", "G", "GG", "GS", "N", "NJ", "NH", "D", "L", "LG", "LM", "LB", "LS", "LT", "LP", "LH", "M", "B", "BS",
    "S", "SS", "NG", "J", "C", "K", "T", "P", "H"]

/-- The code point of a Korean syllable: syllables are counted by their first sound, then by their vowel,
then by their last sound. -/
def ofSyllable? (name : List Char) : Option Nat := do
  let sounds ← behind? "HANGUL SYLLABLE " name
  (initials.zipIdx).findSome? fun (initial, first) => do
    let rest ← behind? initial sounds
    (vowels.zipIdx).findSome? fun (vowel, second) => do
      let rest ← behind? vowel rest
      let third ← finals.findIdx? fun final => final.toList == rest
      return 0xAC00 + (first * vowels.length + second) * finals.length + third

end CharacterName

/-- The character that has a name. -/
def namedCharacter? (name : List Char) : Option Char :=
  let upper := name.map Char.toUpper
  let code? := (CharacterName.ofIdeograph? name).or <| (CharacterName.ofSyllable? name).or <|
    (CharacterName.ofNumbered? upper).or <| (CharacterName.ofDots? upper).or <|
      CharacterName.lists.findSome? (CharacterName.findIn (splitAt ' ' upper))
  code?.map Char.ofNat

end SelectionGen.Text
