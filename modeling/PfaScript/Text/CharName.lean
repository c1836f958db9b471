import PfaScript.Json.Reader
import PfaScript.Text.Basic
import PfaScript.Text.CharName.Alias
import PfaScript.Text.CharName.Ancient
import PfaScript.Text.CharName.EastAsia
import PfaScript.Text.CharName.Scripts
import PfaScript.Text.CharName.Supplement
import PfaScript.Text.CharName.Symbols

/-!
# Names of characters

Every character has a name, such as `BULLET`; `Text.charNamed?` finds the character of a name. Most
names are listed in tables, a few sorts are made by rules: ideographs are named by their code, and
the syllables of Hangul by their sounds.

A table lists names with commas or line ends between them, in ascending order of their characters.
The first digit of an entry is the number of words that the name has in common with the name before
it. An entry after an equals sign is the code of the next name, where a gap has to be skipped.
-/

namespace PfaScript

namespace Text

namespace CharName

/-- A name as the list of its words. -/
abbrev Words := List (List Char)

/-- Where the reading of a table stands. -/
structure Place where
  /-- The code of the next name. -/
  code : Nat
  /-- The name before. -/
  words : Words
  /-- The characters of the entry so far, from the last to the first. -/
  entry : List Char
  /-- The code of the name that is looked for, once it has been found. -/
  found : Option Nat

/-- The number that digits write in base sixteen. -/
def hexCode (digits : List Char) : Nat :=
  digits.foldl (fun n c => 16 * n + (Json.Reader.hexValue? c).getD 0) 0

/-- The name that an entry stands for after another name. -/
def wordsAfter (previous : Words) (entry : List Char) : Words :=
  match entry with
  | c :: rest =>
    if c.isDigit then previous.take (c.toNat - '0'.toNat) ++ Text.split ' ' rest
    else Text.split ' ' entry
  | [] => []

/-- The place after the end of an entry. -/
def Place.finish (target : Words) (place : Place) : Place :=
  match place.entry.reverse.dropWhile (· = ' ') with
  | [] => { place with entry := [] }
  | '=' :: digits => { place with code := hexCode digits, entry := [] }
  | entry =>
    let words := wordsAfter place.words entry
    { code := place.code + 1
      words := words
      entry := []
      found := if words = target then some place.code else place.found }

/-- The place after one more character of the table. -/
def Place.step (target : Words) (place : Place) (c : Char) : Place :=
  if c = ',' || c = '\n' then place.finish target else { place with entry := c :: place.entry }

/-- The code of a name in a table. -/
def listed? (table : String) (target : Words) : Option Nat :=
  ((table.toList.foldl (Place.step target) ⟨0, [], [], none⟩).finish target).found

/-! ### Names by rules -/

/-- Whether a code is in one of the ranges. -/
def inRanges (ranges : List (Nat × Nat)) (code : Nat) : Bool :=
  ranges.any fun (first, last) => first ≤ code && code ≤ last

/-- The unified ideographs. -/
def ideographs : List (Nat × Nat) := [
  (0x3400, 0x4dbf), (0x4e00, 0x9fff), (0x20000, 0x2a6df), (0x2a700, 0x2b738), (0x2b740, 0x2b81d),
  (0x2b820, 0x2cea1), (0x2ceb0, 0x2ebe0), (0x30000, 0x3134a)]

/-- Whether a character is a digit in base sixteen, in capital letters. -/
def isCapitalHex (c : Char) : Bool :=
  c.isDigit || ('A' ≤ c && c ≤ 'F')

/-- What follows a beginning of a text. -/
def after? (start : String) (cs : List Char) : Option (List Char) :=
  if start.toList.isPrefixOf cs then some (cs.drop start.length) else none

/-- The code of a unified ideograph, which is named by the four or five digits of its code. -/
def ideograph? (name : List Char) : Option Nat := do
  let digits ← after? "CJK UNIFIED IDEOGRAPH-" name
  if (digits.length = 4 || digits.length = 5) && digits.all isCapitalHex &&
      inRanges ideographs (hexCode digits) then some (hexCode digits)
  else none

/-- The other characters that are named by their codes. -/
def numbered : List (String × List (Nat × Nat)) := [
  ("CJK COMPATIBILITY IDEOGRAPH-", [(0xf900, 0xfa6d), (0xfa70, 0xfad9), (0x2f800, 0x2fa1d)]),
  ("KHITAN SMALL SCRIPT CHARACTER-", [(0x18b00, 0x18cd5)]),
  ("NUSHU CHARACTER-", [(0x1b170, 0x1b2fb)])]

/-- The code of a character that is named by it, without leading zeros. -/
def numbered? (name : List Char) : Option Nat :=
  numbered.findSome? fun (start, ranges) => do
    let digits ← after? start name
    if digits.length ≤ 5 && digits.head? ≠ some '0' && digits.all isCapitalHex &&
        inRanges ranges (hexCode digits) then some (hexCode digits)
    else none

/-- The code of a variation selector by its short name, which ends in its number. -/
def selector? (name : List Char) : Option Nat := do
  let digits ← after? "VS" name
  if digits.isEmpty || 3 < digits.length || digits.head? = some '0' || !digits.all Char.isDigit then
    none
  else
    let number := digits.foldl (fun n c => 10 * n + (c.toNat - '0'.toNat)) 0
    if number ≤ 16 then some (0xfe00 + (number - 1))
    else if number ≤ 256 then some (0xe0100 + (number - 17))
    else none

/-- The sounds that begin a syllable of Hangul, in the order of the syllables. -/
def leads : List String :=
  ["G", "GG", "N", "D", "DD", "R", "M", "B", "BB", "S", "SS", "", "J", "JJ", "C", "K", "T", "P",
    "H"]

/-- The vowels of syllables of Hangul. -/
def vowels : List String :=
  ["A", "AE", "YA", "YAE", "EO", "E", "YEO", "YE", "O", "WA", "WAE", "OE", "YO", "U", "WEO", "WE",
    "WI", "YU", "EU", "YI", "I"]

/-- The sounds that end a syllable of Hangul, of which the first is none. -/
def tails : List String :=
  ["", "G", "GG", "GS", "N", "NJ", "NH", "D", "L", "LG", "LM", "LB", "LS", "LT", "LP", "LH", "M",
    "B", "BS", "S", "SS", "NG", "J", "C", "K", "T", "P", "H"]

/-- The number of the longest of the sounds with which a text begins, and the rest of the text. -/
def sound? (sounds : List String) (cs : List Char) : Option (Nat × List Char) :=
  sounds.zipIdx.foldl (fun best (sound, index) =>
    match after? sound cs with
    | none => best
    | some rest => if best.all fun (_, shortest) => rest.length < shortest.length then
        some (index, rest) else best) none

/-- The code of a syllable of Hangul, which is named by its sounds. -/
def syllable? (name : List Char) : Option Nat := do
  let sounds ← after? "HANGUL SYLLABLE " name
  let (lead, sounds) ← sound? leads sounds
  let (vowel, sounds) ← sound? vowels sounds
  let (tail, sounds) ← sound? tails sounds
  if sounds.isEmpty then some (0xac00 + (lead * 21 + vowel) * 28 + tail) else none

/-! ### Names in tables -/

/-- The tables of names. -/
def tables : List String := [scripts, symbols, eastAsia, ancient, supplement, aliases]

end CharName

open CharName in
/-- The code of the character with a name. Small letters count as capital ones, except in the names
of unified ideographs and syllables of Hangul. -/
def codeNamed? (name : List Char) : Option Nat :=
  let capitals := name.map Char.toUpper
  (ideograph? name).or <| (syllable? name).or <| (numbered? capitals).or <|
    (selector? capitals).or <| tables.findSome? (listed? · (Text.split ' ' capitals))

end Text

end PfaScript
