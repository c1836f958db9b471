import PfaScript.Number.Shortest

/-!
# Layout of decimals

How the digits of a double are laid out as text. All formats write the shortest digits, positionally
for `10 ^ -4 ≤ |x| < 10 ^ 16` and with an exponent otherwise; a `Layout` records where they differ.
-/

namespace PfaScript

/-- The choices in which number formats differ. -/
structure Layout where
  /-- The text of "not a number". -/
  nan : String
  /-- The text of infinity, without sign. -/
  infinity : String
  /-- Whether an integral number is written with `.0`. -/
  keepsZero : Bool
  /-- Whether `.0` also stands before an exponent when there is one digit only. -/
  zeroBeforeExponent : Bool

namespace Layout

/-- Numbers shown in messages. -/
def shown : Layout := ⟨"nan", "inf", true, false⟩

/-- Numbers of a JSON text. -/
def json : Layout := ⟨"NaN", "Infinity", true, false⟩

/-- Numbers of a YAML text. -/
def yaml : Layout := ⟨".nan", ".inf", true, true⟩

/-- The parts of a complex number: an integral part has no point. -/
def part : Layout := ⟨"nan", "inf", false, false⟩

/-- The decimal digits of a natural number. -/
def natDigits (n : Nat) : List Char :=
  Nat.toDigits 10 n

/-- An exponent has a sign and at least two digits. -/
def exponentText (e : Int) : List Char :=
  let digits := natDigits e.natAbs
  let digits := if digits.length < 2 then '0' :: digits else digits
  (if e < 0 then '-' else '+') :: digits

/-- Lays out digits of which the first stands for `10 ^ top`. -/
def unsigned (layout : Layout) (digits : List Char) (top : Int) : List Char :=
  if -4 ≤ top ∧ top < 16 then
    if top < 0 then
      '0' :: '.' :: (List.replicate ((-top).toNat - 1) '0' ++ digits)
    else
      let whole := top.toNat + 1
      let padded := digits ++ List.replicate (whole - digits.length) '0'
      let fraction := padded.drop whole
      if fraction.isEmpty then
        padded.take whole ++ (if layout.keepsZero then ['.', '0'] else [])
      else padded.take whole ++ '.' :: fraction
  else
    let mantissa := match digits with
      | [] => []
      | [d] => if layout.zeroBeforeExponent then [d, '.', '0'] else [d]
      | d :: rest => d :: '.' :: rest
    mantissa ++ 'e' :: exponentText top

/-- The text of a double. -/
def text (layout : Layout) : Double → String
  | .nan => layout.nan
  | .infinite negative => (if negative then "-" else "") ++ layout.infinity
  | .finite negative significand exponent =>
    let decimal := Decimal.shortest significand exponent
    let digits := natDigits decimal.digits
    let top := decimal.exponent + digits.length - 1
    (if negative then "-" else "") ++ String.ofList (layout.unsigned digits top)

end Layout

end PfaScript
