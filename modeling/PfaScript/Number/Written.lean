import PfaScript.Number.Double
import PfaScript.Number.Integer

/-!
# Doubles written as text

A number may have blanks around it, a sign before it, a fraction and an exponent. Its digits may
come from any script. Infinity and what is not a number are written by words.
-/

namespace PfaScript

namespace Double

/-- The digits at the start of a text, and the rest. -/
def leadingDigits (cs : List Char) : List Nat × List Char :=
  let found := cs.takeWhile fun c => (Text.digitValue? c).isSome
  (found.filterMap Text.digitValue?, cs.drop found.length)

/-- The number that digits write. -/
def natOfDigits (digits : List Nat) : Nat :=
  digits.foldl (fun n digit => 10 * n + digit) 0

/-- The fraction at the start of a text, after its point, and the rest. -/
def fraction : List Char → List Nat × List Char
  | '.' :: rest => leadingDigits rest
  | cs => ([], cs)

/-- The exponent that makes up a text; without one it is zero. -/
def exponent? : List Char → Option Int
  | [] => some 0
  | e :: rest =>
    let (negative, rest) := match rest with
      | '-' :: rest => (true, rest)
      | '+' :: rest => (false, rest)
      | _ => (false, rest)
    match leadingDigits rest with
    | (found, []) =>
      if (e = 'e' || e = 'E') && !found.isEmpty then
        let size : Int := natOfDigits found
        some (if negative then -size else size)
      else none
    | _ => none

/-- The double that a text without a sign writes. -/
def unsigned? (negative : Bool) (cs : List Char) : Option Double :=
  let word := String.ofList (cs.map Char.toLower)
  if word = "inf" || word = "infinity" then some (.infinite negative)
  else if word = "nan" then some .nan
  else
    let (whole, rest) := leadingDigits cs
    let (part, rest) := fraction rest
    if whole.isEmpty && part.isEmpty then none
    else (exponent? rest).map fun power =>
      ofDecimal negative (natOfDigits (whole ++ part)) (power - part.length)

/-- The double that a text writes. -/
def ofText? (cs : List Char) : Option Double :=
  match Text.trimWith Integer.isAround cs with
  | '-' :: rest => unsigned? true rest
  | '+' :: rest => unsigned? false rest
  | cs => unsigned? false cs

end Double

end PfaScript
