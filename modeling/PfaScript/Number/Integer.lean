import PfaScript.Text.Basic
import PfaScript.Text.Digit

/-!
# Integers written as text

An integer may have blanks around it and a sign before it. Its digits may come from any script and
may be grouped by single underscores between them; leading zeros do not matter. In base two, eight
and sixteen the usual mark of the base may stand before the digits.

In base ten an integer may not have more than `Integer.mostDigits` digits, whether it is read from a
text or written to one.
-/

namespace PfaScript

namespace Integer

/-! ### The length of integers -/

/-- The most digits that an integer may have in base ten. -/
def mostDigits : Nat := 4300

/-- The number of digits that an integer has in base ten. -/
def digitCount (n : Int) : Nat :=
  (Nat.toDigits 10 n.natAbs).length

/-- Whether an integer has too many digits. -/
def isLong (n : Int) : Bool :=
  mostDigits < digitCount n

/-- The wording of the limit of digits. -/
def limitText : String :=
  s!"Exceeds the limit ({mostDigits} digits) for integer string conversion"

/-- The wording of how to get around the limit of digits. -/
def limitAdvice : String :=
  "use sys.set_int_max_str_digits() to increase the limit"

/-- The wording of a text having so many digits. -/
def longTextMessage (count : Nat) : String :=
  s!"{limitText}: value has {count} digits; {limitAdvice}"

/-- The wording of an integer having too many digits to be written. -/
def longIntegerMessage : String :=
  s!"{limitText}; {limitAdvice}"

/-! ### Integers in a base -/

/-- Why a text writes no integer. -/
inductive Flaw where
  /-- The text is not made of digits. -/
  | notDigits
  /-- The text has this number of digits. -/
  | tooManyDigits (count : Nat)
deriving DecidableEq, Repr

/-- The value of a digit in a base up to sixteen. -/
def digitValue? (base : Nat) (c : Char) : Option Nat :=
  let letter := c.toLower
  let value := if 'a' ≤ letter && letter ≤ 'f' then some (letter.toNat - 'a'.toNat + 10)
    else Text.digitValue? c
  value.filter (· < base)

/-- The value of digits, single underscores between them, that go on after `n`. -/
def digits? (base n : Nat) : List Char → Option Nat
  | [] => some n
  | '_' :: c :: rest => do digits? base (base * n + (← digitValue? base c)) rest
  | c :: rest => do digits? base (base * n + (← digitValue? base c)) rest

/-- The value of at least one digit. -/
def unsigned? (base : Nat) : List Char → Option Nat
  | [] => none
  | c :: rest => do digits? base (← digitValue? base c) rest

/-- The letter after the zero in the mark of a base. -/
def baseLetter? : Nat → Option Char
  | 2 => some 'b'
  | 8 => some 'o'
  | 16 => some 'x'
  | _ => none

/-- The digits after the mark of a base, if it is there; an underscore may follow the mark. -/
def withoutMark (base : Nat) : List Char → List Char
  | zero :: letter :: rest =>
    if Text.digitValue? zero = some 0 && some letter.toLower = baseLetter? base then
      match rest with
      | '_' :: rest => rest
      | _ => rest
    else zero :: letter :: rest
  | cs => cs

/-- Whether a character may stand around an integer: white space, but no information separator. -/
def isAround (c : Char) : Bool :=
  Text.isBlank c && !(0x1c ≤ c.toNat && c.toNat ≤ 0x1f)

/-- The number of digits at the start of a text; underscores do not count. -/
def leadingDigits (base : Nat) (cs : List Char) : Nat :=
  (cs.takeWhile fun c => c = '_' || (digitValue? base c).isSome).countP (· ≠ '_')

/-- The number that a text without a sign writes in a base. Only in base ten the number of digits
matters. -/
def magnitude (base : Nat) (cs : List Char) : Except Flaw Nat :=
  let cs := withoutMark base cs
  let count := leadingDigits base cs
  if base = 10 && mostDigits < count then .error (.tooManyDigits count)
  else match unsigned? base cs with
    | some n => .ok n
    | none => .error .notDigits

/-- The integer that a text writes in a base. -/
def inBase (base : Nat) (cs : List Char) : Except Flaw Int :=
  match Text.trimWith isAround cs with
  | '-' :: rest => (magnitude base rest).map fun n => -(n : Int)
  | '+' :: rest => (magnitude base rest).map Int.ofNat
  | cs => (magnitude base cs).map Int.ofNat

/-- The integer that a text writes in base ten. -/
def ofText? (s : String) : Option Int :=
  (inBase 10 s.toList).toOption

end Integer

end PfaScript
