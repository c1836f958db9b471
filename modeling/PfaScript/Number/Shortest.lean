import PfaScript.Number.Double

/-!
# Shortest decimals

The fewest decimal digits that read back as a given double, and of those the nearest to it.

A double `m · 2 ^ q` is the nearest double to every real number of an interval around it, whose ends
belong to it exactly when `m` is even. For one digit, two digits and so on, the value's two
neighbours on the decimal grid with that many digits are tried; seventeen digits always suffice.
Everything is measured in quarters of the last binary place, so that the ends are integers.
-/

namespace PfaScript

/-- A decimal number `digits · 10 ^ exponent`. -/
structure Decimal where
  /-- The digits, read as a natural number. -/
  digits : Nat
  /-- The power of ten of the last digit. -/
  exponent : Int
deriving DecidableEq, Repr

namespace Decimal

/-- The interval of numbers nearest to one double: the three numerators are over one denominator. -/
structure Interval where
  /-- Lower end. -/
  low : Nat
  /-- The double itself. -/
  value : Nat
  /-- Upper end. -/
  high : Nat
  /-- Common denominator. -/
  den : Nat
  /-- Whether the ends belong to the interval. -/
  closed : Bool

/-- The interval of numbers that round to `m · 2 ^ q`. Below a power of two the doubles lie twice as
close, so there the lower end is nearer. -/
def Interval.around (m : Nat) (q : Int) : Interval :=
  let below := if m = Nat.pow 2 52 ∧ Double.leastExponent < q then 1 else 2
  let unit := if 2 ≤ q then Nat.pow 2 (q - 2).toNat else 1
  let den := if 2 ≤ q then 1 else Nat.pow 2 (2 - q).toNat
  ⟨(4 * m - below) * unit, 4 * m * unit, (4 * m + 2) * unit, den, m % 2 = 0⟩

/-- Whether `c · 10 ^ k` lies in the interval. -/
def Interval.contains (i : Interval) (c : Nat) (k : Int) : Bool :=
  let up := if 0 ≤ k then Nat.pow 10 k.toNat else 1
  let down := if 0 ≤ k then 1 else Nat.pow 10 (-k).toNat
  let point := c * up * i.den
  if i.closed then i.low * down ≤ point && point ≤ i.high * down
  else i.low * down < point && point < i.high * down

/-- The greatest `k` with `10 ^ k ≤ value`, for a positive value between `2 ^ e` and `2 ^ (e + 1)`.
-/
def Interval.floorLog10 (i : Interval) (e : Int) : Int :=
  let reaches (k : Int) : Bool :=
    if 0 ≤ k then Nat.pow 10 k.toNat * i.den ≤ i.value
    else i.den ≤ i.value * Nat.pow 10 (-k).toNat
  let guess := Int.fdiv (e * 30103) 100000
  if reaches (guess + 1) then guess + 1 else if reaches guess then guess else guess - 1

/-- The neighbour of the value on the grid of multiples of `10 ^ k` that lies in the interval: the
nearer one if both do, and of two equally near ones the even one. -/
def Interval.onGrid? (i : Interval) (k : Int) : Option Nat :=
  let num := if 0 ≤ k then i.value else i.value * Nat.pow 10 (-k).toNat
  let den := if 0 ≤ k then i.den * Nat.pow 10 k.toNat else i.den
  let lower := num / den
  match i.contains lower k, i.contains (lower + 1) k with
  | true, true => some (Double.roundDiv num den)
  | true, false => some lower
  | false, true => some (lower + 1)
  | false, false => none

/-- The shortest decimal that reads back as `m · 2 ^ q`. It ends in no zero, since then a coarser
grid would have had it; only the step from nine to ten can make the first grid give `10`. -/
def shortest (m : Nat) (q : Int) : Decimal :=
  if m = 0 then ⟨0, 0⟩ else
  let interval := Interval.around m q
  let top := interval.floorLog10 ((Nat.log2 m : Int) + q)
  let found := (List.range 17).findSome? fun (count : Nat) =>
    (interval.onGrid? (top - count)).map fun c => Decimal.mk c (top - count)
  match found with
  | some ⟨10, exponent⟩ => ⟨1, exponent + 1⟩
  | some decimal => decimal
  -- Not reached: some decimal of seventeen digits reads back as any given double.
  | none => ⟨interval.value / interval.den, 0⟩

end Decimal

end PfaScript
