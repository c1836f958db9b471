import Mathlib.Data.List.TakeWhile
import Mathlib.Data.Nat.Digits.Defs
import Mathlib.Tactic.GCongr
import PfaScript.Json.Printer
import PfaScript.Json.Reader
import PfaScript.Proofs.Outcome

/-!
# Numbers in a text

The readers of numbers look at no more than they take: what follows a number does not change how it
is read, as long as it does not begin like a part of a number (`Ends`). Integers are read back as
they were written (`Reader.number_integer`), and what is written for a double consists of digits,
points, signs and the letter of exponents.
-/

namespace PfaScript

namespace Json

namespace Reader

/-- A text that does not go on with a number: it is empty or begins with another character than
those of numbers. -/
def Ends (rest : List Char) : Prop :=
  ∀ c ∈ rest.head?, c.isDigit = false ∧ c ∉ ['.', 'e', 'E', '+', '-']

variable {c : Char} {cs after digits rest : List Char}

/-! ### Taking no more than the number -/

theorem Ends.takeWhile_append (h : Ends rest) (cs : List Char) :
    (cs ++ rest).takeWhile Char.isDigit = cs.takeWhile Char.isDigit := by
  induction cs with
  | nil =>
      cases rest with
      | nil => rfl
      | cons c tail => simp [(h c rfl).1]
  | cons c cs ih =>
      rw [List.cons_append, List.takeWhile_cons, List.takeWhile_cons, ih]

theorem Ends.dropWhile_append (h : Ends rest) (cs : List Char) :
    (cs ++ rest).dropWhile Char.isDigit = cs.dropWhile Char.isDigit ++ rest := by
  induction cs with
  | nil =>
      cases rest with
      | nil => rfl
      | cons c tail => simp [(h c rfl).1]
  | cons c cs ih =>
      rw [List.cons_append, List.dropWhile_cons, List.dropWhile_cons, ih]
      split <;> rfl

theorem fraction_point (cs : List Char) :
    fraction ('.' :: cs) =
      if cs.takeWhile Char.isDigit = [] then ([], '.' :: cs)
      else (cs.takeWhile Char.isDigit, cs.dropWhile Char.isDigit) := by
  cases hdigits : cs.takeWhile Char.isDigit <;> simp [fraction, hdigits]

theorem fraction_of_ne (h : cs.head? ≠ some '.') : fraction cs = ([], cs) := by
  unfold fraction
  split
  · exact absurd rfl h
  · rfl

theorem Ends.fraction_append (h : Ends rest) (cs : List Char) :
    fraction (cs ++ rest) = ((fraction cs).1, (fraction cs).2 ++ rest) := by
  by_cases hpoint : cs.head? = some '.'
  · obtain ⟨tail, rfl⟩ := List.head?_eq_some_iff.mp hpoint
    rw [List.cons_append, fraction_point, fraction_point, h.takeWhile_append, h.dropWhile_append]
    split <;> rfl
  · have happend : (cs ++ rest).head? ≠ some '.' := by
      cases cs with
      | nil => exact fun hrest => (h '.' hrest).2 (by decide)
      | cons c cs => exact hpoint
    rw [fraction_of_ne hpoint, fraction_of_ne happend]

theorem sign_cons_of_ne (hminus : c ≠ '-') (hplus : c ≠ '+') (cs : List Char) :
    sign (c :: cs) = (false, c :: cs) := by
  unfold sign
  split
  next heq => exact absurd (List.cons.inj heq).1 hminus
  next heq => exact absurd (List.cons.inj heq).1 hplus
  next => rfl

theorem Ends.sign_append (h : Ends rest) (cs : List Char) :
    sign (cs ++ rest) = ((sign cs).1, (sign cs).2 ++ rest) := by
  cases cs with
  | nil =>
      cases rest with
      | nil => rfl
      | cons c tail =>
          -- what follows begins with no sign
          have hne (sign : Char) (hsign : sign ∈ ['+', '-']) : c ≠ sign := by
            rintro rfl
            exact (h c rfl).2 (by simp_all)
          exact sign_cons_of_ne (hne '-' (by simp)) (hne '+' (by simp)) tail
  | cons c cs =>
      by_cases hminus : c = '-'
      · subst hminus
        rfl
      by_cases hplus : c = '+'
      · subst hplus
        rfl
      · rw [List.cons_append, sign_cons_of_ne hminus hplus, sign_cons_of_ne hminus hplus]
        rfl

theorem Ends.exponent?_append (h : Ends rest) (cs : List Char) :
    exponent? (cs ++ rest) = (exponent? cs).map fun found => (found.1, found.2 ++ rest) := by
  cases cs with
  | nil =>
      cases rest with
      | nil => rfl
      | cons c tail =>
          have hletter : ¬(c = 'e' ∨ c = 'E') := by
            rintro (rfl | rfl)
            · exact (h 'e' rfl).2 (by decide)
            · exact (h 'E' rfl).2 (by decide)
          exact if_neg hletter
  | cons e cs =>
      rw [List.cons_append, exponent?, exponent?, h.sign_append]
      obtain ⟨negative, cs⟩ := sign cs
      dsimp only
      rw [h.takeWhile_append, h.dropWhile_append]
      split
      · cases cs.takeWhile Char.isDigit <;> rfl
      · rfl

theorem Ends.numberTail_append (h : Ends rest) (negative : Bool) (whole cs : List Char) :
    numberTail negative whole (cs ++ rest) =
      ((numberTail negative whole cs).1, (numberTail negative whole cs).2 ++ rest) := by
  unfold numberTail
  rw [h.fraction_append]
  obtain ⟨digits, after⟩ := fraction cs
  dsimp only
  rw [h.exponent?_append]
  cases digits <;> cases exponent? after <;> rfl

theorem unsignedNumber?_digit (negative : Bool) (hdigit : c.isDigit = true) (hzero : c ≠ '0')
    (cs : List Char) :
    unsignedNumber? negative (c :: cs) =
      some (numberTail negative (c :: cs.takeWhile Char.isDigit) (cs.dropWhile Char.isDigit)) := by
  unfold unsignedNumber?
  split
  next heq => exact absurd (List.cons.inj heq).1 hzero
  next heq =>
    cases heq
    rw [if_pos hdigit]
  next heq => cases heq

theorem unsignedNumber?_other (negative : Bool) (hdigit : c.isDigit = false) (cs : List Char) :
    unsignedNumber? negative (c :: cs) = none := by
  unfold unsignedNumber?
  split
  next heq =>
    cases heq
    cases hdigit
  next heq =>
    cases heq
    rw [hdigit]
    rfl
  next heq => cases heq

theorem Ends.unsignedNumber?_append (h : Ends rest) (negative : Bool) (c : Char) (cs : List Char) :
    unsignedNumber? negative (c :: cs ++ rest) =
      (unsignedNumber? negative (c :: cs)).map fun found => (found.1, found.2 ++ rest) := by
  rw [List.cons_append]
  by_cases hzero : c = '0'
  · subst hzero
    exact congrArg some (h.numberTail_append negative ['0'] cs)
  cases hdigit : c.isDigit with
  | true =>
      rw [unsignedNumber?_digit negative hdigit hzero, unsignedNumber?_digit negative hdigit hzero,
        h.takeWhile_append, h.dropWhile_append, h.numberTail_append]
      rfl
  | false =>
      rw [unsignedNumber?_other negative hdigit, unsignedNumber?_other negative hdigit]
      rfl

/-- A text that begins as numbers do: with a digit, or with a sign and a digit. -/
def StartsNumber (cs : List Char) : Prop :=
  ∃ c tail, c.isDigit = true ∧ (cs = c :: tail ∨ cs = '-' :: c :: tail)

/-- A number is read if it is not an integer with too many digits. -/
theorem number_ok_iff {v : Json} :
    number cs = .ok (v, after) ↔ signedNumber? cs = some (v, after) ∧ v.isLong = false := by
  unfold number
  rcases signedNumber? cs with _ | ⟨found, left⟩
  · simp
  cases found with
  | int n => by_cases hlong : Integer.isLong n = true <;> simp [hlong] <;> grind [isLong]
  | _ => grind [isLong]

/-- A digit is no sign. -/
theorem signedNumber?_digit (hdigit : c.isDigit = true) :
    signedNumber? (c :: cs) = unsignedNumber? false (c :: cs) := by
  unfold signedNumber?
  split
  next heq =>
    cases heq
    cases hdigit
  next => rfl

/-- What follows a number is left as it is. -/
theorem Ends.number_append (h : Ends rest) {v : Json} (hstarts : StartsNumber cs)
    (hnumber : number cs = .ok (v, after)) : number (cs ++ rest) = .ok (v, after ++ rest) := by
  obtain ⟨hfound, hshort⟩ := number_ok_iff.mp hnumber
  refine number_ok_iff.mpr ⟨?_, hshort⟩
  obtain ⟨c, tail, hdigit, rfl | rfl⟩ := hstarts
  · rw [signedNumber?_digit hdigit] at hfound
    rw [List.cons_append, signedNumber?_digit hdigit, ← List.cons_append,
      h.unsignedNumber?_append, hfound]
    rfl
  · change unsignedNumber? true (c :: tail ++ rest) = _
    rw [h.unsignedNumber?_append, show unsignedNumber? true (c :: tail) = _ from hfound]
    rfl

/-! ### What a number leaves is the end of the text -/

theorem fraction_suffix (cs : List Char) : (fraction cs).2 <:+ cs := by
  by_cases hpoint : cs.head? = some '.'
  · obtain ⟨tail, rfl⟩ := List.head?_eq_some_iff.mp hpoint
    rw [fraction_point]
    split
    · exact List.suffix_rfl
    · exact (List.dropWhile_suffix _).trans (List.suffix_cons _ _)
  · simp only [fraction_of_ne hpoint, List.suffix_rfl]

theorem sign_suffix (cs : List Char) : (sign cs).2 <:+ cs := by
  unfold sign
  split
  · exact List.suffix_cons _ _
  · exact List.suffix_cons _ _
  · exact List.suffix_rfl

theorem exponent?_suffix {power : Int} (h : exponent? cs = some (power, after)) : after <:+ cs := by
  cases cs with
  | nil => cases h
  | cons e cs =>
      have hsign := sign_suffix cs
      rw [exponent?] at h
      split at h
      · generalize sign cs = found at h hsign
        obtain ⟨negative, cs'⟩ := found
        dsimp only at h hsign
        split at h
        · cases h
        · cases h
          exact ((List.dropWhile_suffix _).trans hsign).trans (List.suffix_cons e cs)
      · cases h

theorem numberTail_suffix (negative : Bool) (whole cs : List Char) :
    (numberTail negative whole cs).2 <:+ cs := by
  have hfraction := fraction_suffix cs
  unfold numberTail
  generalize fraction cs = found at hfraction ⊢
  obtain ⟨digits, after⟩ := found
  dsimp only
  cases hexponent : exponent? after with
  | none => cases digits <;> exact hfraction
  | some found =>
      have hsuffix := (exponent?_suffix hexponent).trans hfraction
      cases digits <;> exact hsuffix

theorem unsignedNumber?_suffix {negative : Bool} {v : Json}
    (h : unsignedNumber? negative cs = some (v, after)) : after <:+ cs := by
  unfold unsignedNumber? at h
  split at h
  next tail =>
    have hsuffix := numberTail_suffix negative ['0'] tail
    rw [Option.some.inj h] at hsuffix
    exact hsuffix.trans (List.suffix_cons _ _)
  next c tail _ =>
    split at h
    · have hsuffix := numberTail_suffix negative (c :: tail.takeWhile Char.isDigit)
        (tail.dropWhile Char.isDigit)
      rw [Option.some.inj h] at hsuffix
      exact (hsuffix.trans (List.dropWhile_suffix _)).trans (List.suffix_cons _ _)
    · cases h
  next => cases h

theorem number_suffix {v : Json} (hstarts : StartsNumber cs) (h : number cs = .ok (v, after)) :
    after <:+ cs := by
  obtain ⟨hfound, -⟩ := number_ok_iff.mp h
  obtain ⟨c, tail, hdigit, rfl | rfl⟩ := hstarts
  · rw [signedNumber?_digit hdigit] at hfound
    exact unsignedNumber?_suffix hfound
  · have hsuffix : after <:+ c :: tail := unsignedNumber?_suffix hfound
    exact hsuffix.trans (List.suffix_cons _ _)

/-! ### Integers -/

theorem natOfDigits_natDigits (n : Nat) : natOfDigits (Layout.natDigits n) = n :=
  Nat.ofDigitChars_toDigits (by decide) (by decide)

theorem isDigit_of_mem_natDigits {n : Nat} (h : c ∈ Layout.natDigits n) : c.isDigit = true :=
  Nat.isDigit_of_mem_toDigits (by decide) (by decide) h

/-- Only zero is written with a zero in front. -/
theorem natDigits_pos {n : Nat} (h : 0 < n) :
    ∃ c tail, Layout.natDigits n = c :: tail ∧ c ≠ '0' := by
  induction n using Nat.strongRecOn with
  | ind n ih =>
      unfold Layout.natDigits at ih ⊢
      rw [Nat.toDigits_eq_if (by decide)]
      split
      next hlt =>
        refine ⟨n.digitChar, [], rfl, ?_⟩
        intro hzero
        have hcode := Nat.toNat_digitChar_of_lt_ten hlt
        rw [hzero] at hcode
        have : '0'.toNat = 48 := rfl
        omega
      next hle =>
        obtain ⟨c, tail, hdigits, hne⟩ := ih (n / 10) (by omega) (by omega)
        exact ⟨c, tail ++ [(n % 10).digitChar], by rw [hdigits, List.cons_append], hne⟩

theorem unsignedNumber?_natDigits (negative : Bool) (n : Nat) :
    unsignedNumber? negative (Layout.natDigits n) =
      some (.int (if negative then -n else n), []) := by
  rcases Nat.eq_zero_or_pos n with rfl | hpos
  · rfl
  · obtain ⟨c, tail, hdigits, hne⟩ := natDigits_pos hpos
    have hall : ∀ d ∈ c :: tail, d.isDigit = true := by
      intro d hd
      exact isDigit_of_mem_natDigits (hdigits ▸ hd)
    rw [List.forall_mem_cons] at hall
    have hvalue := natOfDigits_natDigits n
    rw [hdigits] at hvalue ⊢
    rw [unsignedNumber?_digit negative hall.1 hne, List.takeWhile_eq_self_iff.mpr hall.2,
      List.dropWhile_eq_nil_iff.mpr hall.2]
    conv_rhs => rw [← hvalue]
    rfl

theorem natDigits_ne_nil (n : Nat) : Layout.natDigits n ≠ [] :=
  Nat.toDigits_ne_nil

theorem startsNumber_integer (n : Int) : StartsNumber (Printer.integer n) := by
  obtain ⟨c, tail, hdigits⟩ := List.exists_cons_of_ne_nil (natDigits_ne_nil n.natAbs)
  have hdigit : c.isDigit = true := isDigit_of_mem_natDigits (hdigits ▸ List.mem_cons_self)
  refine ⟨c, tail, hdigit, ?_⟩
  unfold Printer.integer
  rw [hdigits]
  split
  · exact .inr rfl
  · exact .inl rfl

/-- An integer is read back as it was written, if it has not too many digits. -/
theorem number_integer {n : Int} (hshort : Integer.isLong n = false) :
    number (Printer.integer n) = .ok (.int n, []) := by
  refine number_ok_iff.mpr ⟨?_, hshort⟩
  unfold Printer.integer
  split
  next hneg =>
    change unsignedNumber? true (Layout.natDigits n.natAbs) = _
    rw [unsignedNumber?_natDigits]
    have hsize : -(n.natAbs : Int) = n := by omega
    rw [if_pos rfl, hsize]
  next hpos =>
    obtain ⟨c, tail, hdigits⟩ := List.exists_cons_of_ne_nil (natDigits_ne_nil n.natAbs)
    have hdigit : c.isDigit = true := isDigit_of_mem_natDigits (hdigits ▸ List.mem_cons_self)
    rw [hdigits, signedNumber?_digit hdigit, ← hdigits, unsignedNumber?_natDigits]
    have : (n.natAbs : Int) = n := by omega
    simp [this]

end Reader

end Json

/-! ### Doubles -/

namespace Layout

/-- The characters of which the texts of finite doubles consist. -/
def isNumberChar (c : Char) : Bool :=
  c.isDigit || c = '.' || c = 'e' || c = '+' || c = '-'

theorem isNumberChar_of_isDigit {c : Char} (h : c.isDigit = true) : isNumberChar c = true := by
  simp [isNumberChar, h]

theorem isNumberChar_of_mem_natDigits {n : Nat} {c : Char} (h : c ∈ natDigits n) :
    isNumberChar c = true :=
  isNumberChar_of_isDigit (Json.Reader.isDigit_of_mem_natDigits h)

theorem isNumberChar_of_mem_replicate {n : Nat} {c : Char} (h : c ∈ List.replicate n '0') :
    isNumberChar c = true := by
  rw [List.eq_of_mem_replicate h]
  rfl

theorem isNumberChar_of_mem_exponentText {e : Int} {c : Char} (h : c ∈ exponentText e) :
    isNumberChar c = true := by
  unfold exponentText at h
  rcases List.mem_cons.mp h with rfl | hdigits
  · split <;> rfl
  · split at hdigits
    · rcases List.mem_cons.mp hdigits with rfl | hdigits
      · rfl
      · exact isNumberChar_of_mem_natDigits hdigits
    · exact isNumberChar_of_mem_natDigits hdigits

theorem isNumberChar_of_mem_unsigned {digits : List Char}
    (hdigits : ∀ d ∈ digits, isNumberChar d = true) {top : Int} {c : Char}
    (h : c ∈ json.unsigned digits top) : isNumberChar c = true := by
  have hpadded : ∀ n, ∀ d ∈ digits ++ List.replicate n '0', isNumberChar d = true := by
    intro n d hd
    rcases List.mem_append.mp hd with hd | hd
    · exact hdigits d hd
    · exact isNumberChar_of_mem_replicate hd
  unfold unsigned at h
  split at h
  · split at h
    · -- digits after a point
      simp only [List.mem_cons, List.mem_append] at h
      rcases h with rfl | rfl | hzero | hdigit
      · rfl
      · rfl
      · exact isNumberChar_of_mem_replicate hzero
      · exact hdigits c hdigit
    · dsimp only at h
      split at h
      · rcases List.mem_append.mp h with hwhole | hpoint
        · exact hpadded _ c (List.mem_of_mem_take hwhole)
        · simp only [json, if_true, List.mem_cons, List.not_mem_nil, or_false] at hpoint
          rcases hpoint with rfl | rfl <;> rfl
      · simp only [List.mem_append, List.mem_cons] at h
        rcases h with hwhole | rfl | hfraction
        · exact hpadded _ c (List.mem_of_mem_take hwhole)
        · rfl
        · exact hpadded _ c (List.mem_of_mem_drop hfraction)
  · -- one digit, and the others after a point, with an exponent
    simp only [List.mem_append, List.mem_cons] at h
    rcases h with hmantissa | rfl | hexponent
    · split at hmantissa
      · cases hmantissa
      · simp_all [json]
      · simp only [List.mem_cons] at hmantissa
        rcases hmantissa with rfl | rfl | hrest
        · exact hdigits _ List.mem_cons_self
        · rfl
        · exact hdigits c (List.mem_cons_of_mem _ hrest)
    · rfl
    · exact isNumberChar_of_mem_exponentText hexponent

theorem exists_unsigned_eq_cons {digits : List Char} (hne : digits ≠ [])
    (hdigits : ∀ d ∈ digits, d.isDigit = true) (top : Int) :
    ∃ c tail, json.unsigned digits top = c :: tail ∧ c.isDigit = true := by
  obtain ⟨d, rest, rfl⟩ := List.exists_cons_of_ne_nil hne
  have hdigit := hdigits d List.mem_cons_self
  unfold unsigned
  split
  · split
    · exact ⟨'0', _, rfl, rfl⟩
    · dsimp only
      split
      · exact ⟨d, _, rfl, hdigit⟩
      · exact ⟨d, _, rfl, hdigit⟩
  · cases rest with
    | nil => exact ⟨d, _, rfl, hdigit⟩
    | cons second others => exact ⟨d, _, rfl, hdigit⟩

/-- The text of a finite double: a sign, perhaps, and digits laid out. -/
theorem text_finite (negative : Bool) (significand : Nat) (exponent : Int) :
    ∃ n top, (json.text (.finite negative significand exponent)).toList =
      (if negative then ['-'] else []) ++ json.unsigned (natDigits n) top := by
  let decimal := Decimal.shortest significand exponent
  refine ⟨decimal.digits, decimal.exponent + (natDigits decimal.digits).length - 1, ?_⟩
  rw [text, String.toList_append, String.toList_ofList]
  cases negative <;> rfl

theorem isNumberChar_of_mem_text {negative : Bool} {significand : Nat} {exponent : Int} {c : Char}
    (h : c ∈ (json.text (.finite negative significand exponent)).toList) :
    isNumberChar c = true := by
  obtain ⟨n, top, htext⟩ := text_finite negative significand exponent
  rw [htext] at h
  rcases List.mem_append.mp h with hsign | hdigits
  · split at hsign
    · rw [List.mem_singleton.mp hsign]
      rfl
    · cases hsign
  · exact isNumberChar_of_mem_unsigned (fun _ => isNumberChar_of_mem_natDigits) hdigits

theorem startsNumber_text (negative : Bool) (significand : Nat) (exponent : Int) :
    Json.Reader.StartsNumber (json.text (.finite negative significand exponent)).toList := by
  obtain ⟨n, top, htext⟩ := text_finite negative significand exponent
  obtain ⟨c, tail, hunsigned, hdigit⟩ := exists_unsigned_eq_cons (Json.Reader.natDigits_ne_nil n)
    (fun _ => Json.Reader.isDigit_of_mem_natDigits) top
  refine ⟨c, tail, hdigit, ?_⟩
  rw [htext, hunsigned]
  cases negative
  · exact .inl rfl
  · exact .inr rfl

end Layout

/-! ### The size of doubles -/

namespace Double

theorem roundDiv_le {num den bound : Nat} (h : num < den * bound) : roundDiv num den ≤ bound := by
  have hquotient : num / den < bound := Nat.div_lt_of_lt_mul h
  unfold roundDiv
  grind

/-- The significand of a quotient has few bits, and its exponent is limited. -/
theorem ofRatio_finite {negative sign : Bool} {num den significand : Nat} {exponent : Int}
    (hden : 0 < den) (h : ofRatio negative num den = .finite sign significand exponent) :
    significand ≤ 2 ^ 54 ∧ exponent ≤ greatestExponent := by
  unfold ofRatio at h
  split at h
  · cases h
    exact ⟨Nat.zero_le _, by decide⟩
  next hnum =>
    dsimp only at h
    have hlog : (Nat.log2 num : Int) - Nat.log2 den - 1 ≤ floorLog2 num den := by
      unfold floorLog2
      grind
    have hnumLt : num < 2 ^ (Nat.log2 num + 1) := Nat.lt_log2_self
    have hdenLe : 2 ^ Nat.log2 den ≤ den := Nat.log2_self_le hden.ne'
    generalize hbase : max leastExponent (floorLog2 num den - 52) = base at h
    have hle : (Nat.log2 num : Int) - Nat.log2 den - 53 ≤ base := by omega
    have hrounded : (if 0 ≤ base then roundDiv num (den * Nat.pow 2 base.toNat)
        else roundDiv (num * Nat.pow 2 (-base).toNat) den) ≤ 2 ^ 54 := by
      split
      next hpos =>
        refine roundDiv_le (hnumLt.trans_le ?_)
        calc 2 ^ (Nat.log2 num + 1) ≤ 2 ^ (Nat.log2 den + base.toNat + 54) :=
              Nat.pow_le_pow_right (by decide) (by omega)
          _ = 2 ^ Nat.log2 den * 2 ^ base.toNat * 2 ^ 54 := by rw [Nat.pow_add, Nat.pow_add]
          _ ≤ den * 2 ^ base.toNat * 2 ^ 54 := by gcongr
      next hneg =>
        refine roundDiv_le ?_
        calc num * 2 ^ (-base).toNat < 2 ^ (Nat.log2 num + 1) * 2 ^ (-base).toNat := by gcongr
          _ = 2 ^ (Nat.log2 num + 1 + (-base).toNat) := (Nat.pow_add _ _ _).symm
          _ ≤ 2 ^ (Nat.log2 den + 54) := Nat.pow_le_pow_right (by decide) (by omega)
          _ = 2 ^ Nat.log2 den * 2 ^ 54 := Nat.pow_add _ _ _
          _ ≤ den * 2 ^ 54 := by gcongr
    generalize (if 0 ≤ base then roundDiv num (den * Nat.pow 2 base.toNat)
        else roundDiv (num * Nat.pow 2 (-base).toNat) den) = rounded at h hrounded
    by_cases hcarry : rounded = Nat.pow 2 53
    · rw [if_pos hcarry] at h
      dsimp only at h
      split at h <;> cases h
      exact ⟨by decide, by omega⟩
    · rw [if_neg hcarry] at h
      dsimp only at h
      split at h <;> cases h
      exact ⟨hrounded, by omega⟩

/-- A whole number that is a double has not too many digits. -/
theorem isLong_of_finite {sign : Bool} {significand : Nat} {exponent : Int} {n : Int}
    (hsignificand : significand ≤ 2 ^ 54) (hexponent : exponent ≤ greatestExponent)
    (h : (finite sign significand exponent).toInt? = some n) : Integer.isLong n = false := by
  have hsize : n.natAbs ≤ significand * 2 ^ exponent.toNat := by
    have hle : (if 0 ≤ exponent then significand * Nat.pow 2 exponent.toNat
        else significand / Nat.pow 2 (-exponent).toNat) ≤ significand * 2 ^ exponent.toNat := by
      split
      · exact Nat.le_refl _
      · exact (Nat.div_le_self _ _).trans (Nat.le_mul_of_pos_right _ (Nat.pow_pos (by decide)))
    simp only [toInt?, truncate?, Option.ite_none_right_eq_some, Option.some.injEq] at h
    obtain ⟨-, rfl⟩ := h
    cases sign
    · exact hle
    · rw [if_pos rfl, Int.natAbs_neg]
      exact hle
  have hsmall : exponent ≤ 971 := hexponent
  have hbound : n.natAbs < 10 ^ Integer.mostDigits :=
    calc n.natAbs ≤ significand * 2 ^ exponent.toNat := hsize
      _ ≤ 2 ^ 54 * 2 ^ exponent.toNat := Nat.mul_le_mul_right _ hsignificand
      _ = 2 ^ (54 + exponent.toNat) := (Nat.pow_add _ _ _).symm
      _ < 10 ^ (54 + exponent.toNat) := Nat.pow_lt_pow_left (by decide) (by omega)
      _ ≤ 10 ^ Integer.mostDigits :=
          Nat.pow_le_pow_right (by decide) (by unfold Integer.mostDigits; omega)
  exact decide_eq_false (Nat.not_lt.mpr (Nat.toDigits_length 10 _ _ (by decide) hbound))

/-- The whole number that a decimal number is rounded to has not too many digits. -/
theorem isLong_ofDecimal {negative : Bool} {digits : Nat} {exponent n : Int}
    (h : (ofDecimal negative digits exponent).toInt? = some n) : Integer.isLong n = false := by
  have hratio {num den : Nat} (hden : 0 < den) (h : (ofRatio negative num den).toInt? = some n) :
      Integer.isLong n = false := by
    cases hfound : ofRatio negative num den with
    | finite sign significand power =>
        obtain ⟨hsignificand, hpower⟩ := ofRatio_finite hden hfound
        exact isLong_of_finite hsignificand hpower (hfound ▸ h)
    | _ =>
        rw [hfound] at h
        cases h
  have hzero (h : (zero negative).toInt? = some n) : Integer.isLong n = false :=
    isLong_of_finite (Nat.zero_le _) (by decide) h
  unfold ofDecimal at h
  split at h
  · exact hzero h
  split at h
  · split at h
    · cases h
    · exact hratio Nat.one_pos h
  · split at h
    · exact hzero h
    · exact hratio (Nat.pow_pos (by decide)) h

/-- The sign of a double does not matter for its digits. -/
theorem isLong_neg {x : Double} (h : ∀ n, x.toInt? = some n → Integer.isLong n = false) {n : Int}
    (hn : (-x).toInt? = some n) : Integer.isLong n = false := by
  have hsame : Integer.isLong (-n) = Integer.isLong n := by
    rw [Integer.isLong, Integer.digitCount, Int.natAbs_neg]
    rfl
  rw [← hsame]
  refine h _ ?_
  cases x with
  | finite sign significand exponent =>
      change (finite (!sign) significand exponent).toInt? = some n at hn
      simp only [toInt?, truncate?, Option.ite_none_right_eq_some, Option.some.injEq] at hn ⊢
      refine ⟨hn.1, ?_⟩
      rw [← hn.2]
      cases sign <;> simp
  | _ => cases hn

end Double

end PfaScript
