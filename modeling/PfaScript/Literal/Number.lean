import PfaScript.Json.Reader
import PfaScript.Number.Integer
import PfaScript.Setting.Basic

/-!
# Numbers in literals

Numbers are written in base ten, or in base two, eight or sixteen after a mark of two characters.
Single underscores may stand between digits. A number with a point or an exponent is a double, and a
number before the letter `j` is imaginary.
-/

namespace PfaScript

namespace Literal

/-- The digits of a number in some base after the first, with single underscores between them; and
the rest of the text. -/
def digitsAfter (isDigit : Char → Bool) : List Char → List Char × List Char
  | '_' :: c :: rest =>
    if isDigit c then
      let (digits, rest) := digitsAfter isDigit rest
      (c :: digits, rest)
    else ([], '_' :: c :: rest)
  | c :: rest =>
    if isDigit c then
      let (digits, rest) := digitsAfter isDigit rest
      (c :: digits, rest)
    else ([], c :: rest)
  | [] => ([], [])

/-- Digits in some base, with single underscores between them; and the rest of the text. -/
def digits (isDigit : Char → Bool) : List Char → List Char × List Char
  | c :: rest =>
    if isDigit c then
      let (digits, rest) := digitsAfter isDigit rest
      (c :: digits, rest)
    else ([], c :: rest)
  | [] => ([], [])

/-- The number that digits write in a base. -/
def natInBase (base : Nat) (digits : List Char) : Nat :=
  digits.foldl (fun n c => base * n + (Json.Reader.hexValue? c).getD 0) 0

/-- A whole number in another base, after its two-letter mark. -/
def basedNumber? (base : Nat) (cs : List Char) : Option (Setting × List Char) :=
  let isDigit (c : Char) : Bool := (Json.Reader.hexValue? c).any (· < base)
  let (found, rest) := match cs with
    | '_' :: rest => digits isDigit rest
    | _ => digits isDigit cs
  if found.isEmpty then none else some (.int (natInBase base found), rest)

/-- The fraction after the whole part of a number; the point may be the last character. -/
def fraction? (cs : List Char) : Option (List Char × List Char) :=
  match cs with
  | '.' :: rest => some (digits Char.isDigit rest)
  | _ => none

/-- The exponent after a number. -/
def exponent? (cs : List Char) : Option (Int × List Char) :=
  let unsigned (negative : Bool) (rest : List Char) : Option (Int × List Char) :=
    match digits Char.isDigit rest with
    | ([], _) => none
    | (found, rest) =>
      let size : Int := natInBase 10 found
      some (if negative then -size else size, rest)
  match cs with
  | e :: '-' :: rest => if e = 'e' || e = 'E' then unsigned true rest else none
  | e :: '+' :: rest => if e = 'e' || e = 'E' then unsigned false rest else none
  | e :: rest => if e = 'e' || e = 'E' then unsigned false rest else none
  | [] => none

/-- A decimal number, with a fraction, an exponent and the letter of imaginary numbers if they are
there. A whole number does not begin with zero unless it is zero. -/
def decimalNumber? (cs : List Char) : Option (Setting × List Char) :=
  let (whole, rest) := digits Char.isDigit cs
  let (point, fractionDigits, rest) := match fraction? rest with
    | some (found, rest) => (true, found, rest)
    | none => (false, [], rest)
  let (power, scaled, rest) := match exponent? rest with
    | some (power, rest) => (power, true, rest)
    | none => (0, false, rest)
  let size := natInBase 10 (whole ++ fractionDigits)
  let value := Double.ofDecimal false size (power - fractionDigits.length)
  match rest with
  | c :: tail =>
    if c = 'j' || c = 'J' then some (.complex (Double.zero false) value, tail)
    else finish whole point scaled value rest
  | [] => finish whole point scaled value rest
where
  /-- A number that is not imaginary. -/
  finish (whole : List Char) (point scaled : Bool) (value : Double) (rest : List Char) :
      Option (Setting × List Char) :=
    if point || scaled then some (.float value, rest)
    else if whole.head? = some '0' && !whole.all (· = '0') then none
    else if Integer.mostDigits < whole.length then none
    else some (.int (natInBase 10 whole), rest)

/-- The characters of words, as far as they can be told by themselves. Whether the word as a whole
is a name is another question. -/
def isWordChar (c : Char) : Bool :=
  c.isAlphanum || c = '_' || 0x80 ≤ c.toNat

/-- The words that may follow a number without a blank between them. -/
def wordsAfterNumber : List String := ["and", "else", "for", "if", "in", "is", "not", "or"]

/-- Whether a number may end before this text: no letter follows, or one of a few words does. -/
def endsNumber (rest : List Char) : Bool :=
  !rest.head?.any isWordChar || wordsAfterNumber.any fun word => word.toList.isPrefixOf rest

/-- A number at the start of the text. -/
def number? (cs : List Char) : Option (Setting × List Char) := do
  let (value, rest) ← match cs with
    | '0' :: c :: rest =>
      if c = 'x' || c = 'X' then basedNumber? 16 rest
      else if c = 'o' || c = 'O' then basedNumber? 8 rest
      else if c = 'b' || c = 'B' then basedNumber? 2 rest
      else decimalNumber? cs
    | _ => decimalNumber? cs
  if endsNumber rest then some (value, rest) else none

end Literal

end PfaScript
