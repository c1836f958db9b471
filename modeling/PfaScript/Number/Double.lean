/-!
# Doubles

Binary floating-point numbers of 64 bits, as sign, significand and exponent. Every finite double is
`± significand · 2 ^ exponent` with `significand < 2 ^ 53` and `-1074 ≤ exponent ≤ 971`; the form is
made unique by asking for `2 ^ 52 ≤ significand` unless the exponent is already the least one. All
operations below are exact integer arithmetic, so they can be reasoned about and run in the kernel.
-/

namespace PfaScript

/-- A 64-bit binary floating-point number. -/
inductive Double where
  /-- Not a number. -/
  | nan
  /-- Positive or negative infinity. -/
  | infinite (negative : Bool)
  /-- The number `± significand · 2 ^ exponent`. -/
  | finite (negative : Bool) (significand : Nat) (exponent : Int)
deriving DecidableEq, Repr, Inhabited

namespace Double

/-- The least exponent of a finite double. -/
def leastExponent : Int := -1074

/-- The greatest exponent of a finite double. -/
def greatestExponent : Int := 971

/-- Zero with a sign. -/
def zero (negative : Bool) : Double :=
  .finite negative 0 leastExponent

/-- The quotient of two natural numbers rounded to the nearest natural number, a half to the even
one. -/
def roundDiv (num den : Nat) : Nat :=
  let quotient := num / den
  let remainder := num % den
  if 2 * remainder < den then quotient
  else if den < 2 * remainder then quotient + 1
  else if quotient % 2 = 0 then quotient else quotient + 1

/-- The greatest `e` with `2 ^ e ≤ num / den`, for positive `num` and `den`. -/
def floorLog2 (num den : Nat) : Int :=
  let guess : Int := (Nat.log2 num : Int) - (Nat.log2 den : Int)
  let reached :=
    if 0 ≤ guess then den * Nat.pow 2 guess.toNat ≤ num else den ≤ num * Nat.pow 2 (-guess).toNat
  if reached then guess else guess - 1

/-- The double nearest to `± num / den`; a tie goes to the even significand, and what is too large
becomes infinite. -/
def ofRatio (negative : Bool) (num den : Nat) : Double :=
  if num = 0 then zero negative else
  let exponent := max leastExponent (floorLog2 num den - 52)
  let significand :=
    if 0 ≤ exponent then roundDiv num (den * Nat.pow 2 exponent.toNat)
    else roundDiv (num * Nat.pow 2 (-exponent).toNat) den
  -- Rounding may carry into a 54th bit.
  let (significand, exponent) :=
    if significand = Nat.pow 2 53 then (Nat.pow 2 52, exponent + 1) else (significand, exponent)
  if greatestExponent < exponent then .infinite negative
  else .finite negative significand exponent

/-- The double nearest to `± digits · 10 ^ exponent`. Exponents so far out that the answer is plain
are answered without raising ten to them. -/
def ofDecimal (negative : Bool) (digits : Nat) (exponent : Int) : Double :=
  if digits = 0 then zero negative
  else if 0 ≤ exponent then
    if 1100 < (Nat.log2 digits : Int) + 3 * exponent then .infinite negative
    else ofRatio negative (digits * Nat.pow 10 exponent.toNat) 1
  else if (Nat.log2 digits : Int) + 1 + 3 * exponent < -1100 then zero negative
  else ofRatio negative digits (Nat.pow 10 (-exponent).toNat)

/-- The double nearest to an integer. -/
def ofInt (n : Int) : Double :=
  ofRatio (n < 0) n.natAbs 1

/-- The number with the other sign. -/
def neg : Double → Double
  | .nan => .nan
  | .infinite negative => .infinite !negative
  | .finite negative significand exponent => .finite (!negative) significand exponent

instance : Neg Double := ⟨neg⟩

/-- Whether the number is zero, of either sign. -/
def isZero : Double → Bool
  | .finite _ 0 _ => true
  | _ => false

/-- Whether the number is infinite, of either sign. -/
def isInfinite : Double → Bool
  | .infinite _ => true
  | _ => false

/-- The integer part of a finite double, toward zero. -/
def truncate? : Double → Option Int
  | .finite negative significand exponent =>
    let size := if 0 ≤ exponent then significand * Nat.pow 2 exponent.toNat
      else significand / Nat.pow 2 (-exponent).toNat
    some (if negative then -size else size)
  | _ => none

/-- The integer that a double is, if it is one. -/
def toInt? : Double → Option Int
  | .finite negative significand exponent =>
    if 0 ≤ exponent ∨ significand % Nat.pow 2 (-exponent).toNat = 0 then
      truncate? (.finite negative significand exponent)
    else none
  | _ => none

end Double

end PfaScript
