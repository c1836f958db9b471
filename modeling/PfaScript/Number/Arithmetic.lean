import PfaScript.Number.Double

/-!
# Sums and products of doubles

The sum and the product of two doubles are those of the numbers that they stand for, rounded to the
nearest double.
-/

namespace PfaScript

namespace Double

/-- The double nearest to `size · 2 ^ exponent`; a zero has the given sign. -/
def ofScaled (negativeZero : Bool) (size exponent : Int) : Double :=
  if size = 0 then zero negativeZero
  else if 0 ≤ exponent then ofRatio (size < 0) (size.natAbs * Nat.pow 2 exponent.toNat) 1
  else ofRatio (size < 0) size.natAbs (Nat.pow 2 (-exponent).toNat)

/-- A significand with a sign. -/
def signedSize (negative : Bool) (significand : Nat) : Int :=
  if negative then -significand else significand

/-- The sum of two doubles. -/
def add : Double → Double → Double
  | .nan, _ => .nan
  | _, .nan => .nan
  | .infinite a, .infinite b => if a = b then .infinite a else .nan
  | .infinite a, _ => .infinite a
  | _, .infinite b => .infinite b
  | .finite a m e, .finite b n f =>
    let least := min e f
    let size :=
      signedSize a m * Int.pow 2 (e - least).toNat + signedSize b n * Int.pow 2 (f - least).toNat
    ofScaled (a && b) size least

instance : Add Double := ⟨add⟩

/-- Whether a number has a minus sign. -/
def isNegative : Double → Bool
  | .nan => false
  | .infinite negative => negative
  | .finite negative _ _ => negative

/-- The product of two doubles. -/
def mul (x y : Double) : Double :=
  let negative := x.isNegative != y.isNegative
  match x, y with
  | .finite _ m e, .finite _ n f => ofScaled negative (signedSize negative (m * n)) (e + f)
  | .nan, _ => .nan
  | _, .nan => .nan
  | x, y => if x.isZero || y.isZero then .nan else .infinite negative

instance : Mul Double := ⟨mul⟩

end Double

end PfaScript
