import PfaScript.Json.Printer
import PfaScript.Json.Reader
import PfaScript.Proofs.Outcome

/-!
# Strings in a text

A string is read back as it was written (`Reader.string_string`). Each of its characters is written
as itself, as an escape or as the code units that stand for it, and the two halves of a pair are
joined again.
-/

namespace PfaScript

namespace Json

namespace Reader

/-! ### Code units -/

/-- The codes of characters: none is half of a surrogate pair. -/
theorem toNat_valid (c : Char) : c.toNat < 0xd800 ∨ 0xdfff < c.toNat ∧ c.toNat < 0x110000 :=
  c.valid

theorem toNat_lt (c : Char) : c.toNat < 0x110000 := by
  have := toNat_valid c
  omega

/-- The code units of a character. -/
def charUnits (c : Char) : List Nat :=
  if c.toNat < 0x10000 then [c.toNat]
  else [0xd800 + (c.toNat - 0x10000) / 0x400, 0xdc00 + (c.toNat - 0x10000) % 0x400]

theorem hexValue?_hexDigit {n : Nat} (h : n < 16) : hexValue? (Printer.hexDigit n) = some n := by
  have hall : ∀ n < 16, hexValue? (Printer.hexDigit n) = some n := by decide
  exact hall n h

theorem hex4?_hexDigits {unit : Nat} (h : unit < 0x10000) :
    hex4? (Printer.hexDigit (unit / 4096 % 16)) (Printer.hexDigit (unit / 256 % 16))
      (Printer.hexDigit (unit / 16 % 16)) (Printer.hexDigit (unit % 16)) = some unit := by
  unfold hex4?
  rw [hexValue?_hexDigit (by omega), hexValue?_hexDigit (by omega), hexValue?_hexDigit (by omega),
    hexValue?_hexDigit (by omega)]
  have hunit : 4096 * (unit / 4096 % 16) + 256 * (unit / 256 % 16) + 16 * (unit / 16 % 16) +
      unit % 16 = unit := by omega
  exact congrArg some hunit

/-- An escaped code unit is read as that unit; some character follows it, if only the quote. -/
theorem units_unitEscape (start : List Char) {unit : Nat} (h : unit < 0x10000) (c : Char)
    (cs : List Char) :
    units start (Printer.unitEscape unit ++ c :: cs) = do
      let (tail, rest) ← units start (c :: cs)
      return (unit :: tail, rest) := by
  unfold Printer.unitEscape
  simp only [List.cons_append, List.nil_append]
  rw [units, hex4?_hexDigits h]

/-- An escaped letter is read as the character that it stands for. -/
theorem units_escape (start : List Char) {e c : Char} (h : escaped? e = some c) (cs : List Char) :
    units start ('\\' :: e :: cs) = do
      let (tail, rest) ← units start cs
      return (c.toNat :: tail, rest) := by
  have hu : e ≠ 'u' := by
    rintro rfl
    cases h
  rw [units, h]
  all_goals simp [hu]

/-- A character that needs no escape is read as itself. -/
theorem units_plain (start : List Char) {c : Char} (hquote : c ≠ '"') (hescape : c ≠ '\\')
    (hprint : 0x20 ≤ c.toNat) (cs : List Char) :
    units start (c :: cs) = do
      let (tail, rest) ← units start cs
      return (c.toNat :: tail, rest) := by
  rw [units, if_neg (by omega)]
  all_goals simp [hquote, hescape]

/-- How a character is written: as an escaped letter, as itself, or as its code units. -/
inductive Written (c : Char) : List Char → Prop
  | letter {e : Char} (hletter : escaped? e = some c) (hsmall : c.toNat < 0x10000) :
      Written c ['\\', e]
  | plain (hquote : c ≠ '"') (hescape : c ≠ '\\') (hreturn : c ≠ '\r') (hprint : 0x20 ≤ c.toNat)
      (hsmall : c.toNat < 0x10000) : Written c [c]
  | unit (hsmall : c.toNat < 0x10000) : Written c (Printer.unitEscape c.toNat)
  | pair (hlarge : ¬ c.toNat < 0x10000) :
      Written c (Printer.unitEscape (0xd800 + (c.toNat - 0x10000) / 0x400) ++
        Printer.unitEscape (0xdc00 + (c.toNat - 0x10000) % 0x400))

theorem written_charText (c : Char) : Written c (Printer.charText c) := by
  unfold Printer.charText
  by_cases hquote : c = '"'
  · rw [if_pos hquote, hquote]
    exact .letter rfl (by decide)
  rw [if_neg hquote]
  by_cases hescape : c = '\\'
  · rw [if_pos hescape, hescape]
    exact .letter rfl (by decide)
  rw [if_neg hescape]
  by_cases hline : c = '\n'
  · rw [if_pos hline, hline]
    exact .letter rfl (by decide)
  rw [if_neg hline]
  by_cases hreturn : c = '\r'
  · rw [if_pos hreturn, hreturn]
    exact .letter rfl (by decide)
  rw [if_neg hreturn]
  by_cases htab : c = '\t'
  · rw [if_pos htab, htab]
    exact .letter rfl (by decide)
  rw [if_neg htab]
  by_cases hback : c = '\x08'
  · rw [if_pos hback, hback]
    exact .letter rfl (by decide)
  rw [if_neg hback]
  by_cases hfeed : c = '\x0c'
  · rw [if_pos hfeed, hfeed]
    exact .letter rfl (by decide)
  rw [if_neg hfeed]
  by_cases hprint : 0x20 ≤ c.toNat ∧ c.toNat ≤ 0x7e
  · rw [if_pos hprint]
    exact .plain hquote hescape hreturn hprint.1 (by omega)
  rw [if_neg hprint]
  by_cases hsmall : c.toNat < 0x10000
  · rw [if_pos hsmall]
    exact .unit hsmall
  · rw [if_neg hsmall]
    exact .pair hsmall

theorem units_charText (start : List Char) (c next : Char) (cs : List Char) :
    units start (Printer.charText c ++ next :: cs) = do
      let (tail, rest) ← units start (next :: cs)
      return (charUnits c ++ tail, rest) := by
  have hwritten := written_charText c
  generalize Printer.charText c = text at hwritten
  cases hwritten with
  | letter hletter hsmall =>
      rw [charUnits, if_pos hsmall]
      exact units_escape start hletter (next :: cs)
  | plain hquote hescape _ hprint hsmall =>
      rw [charUnits, if_pos hsmall]
      exact units_plain start hquote hescape hprint (next :: cs)
  | unit hsmall =>
      rw [charUnits, if_pos hsmall]
      exact units_unitEscape start hsmall next cs
  | pair hlarge =>
      have hhigh : 0xd800 + (c.toNat - 0x10000) / 0x400 < 0x10000 := by
        have := toNat_lt c
        omega
      rw [charUnits, if_neg hlarge, List.append_assoc]
      -- the second escape follows the first one
      refine (units_unitEscape start hhigh '\\' _).trans ?_
      have hlow := units_unitEscape start
        (show 0xdc00 + (c.toNat - 0x10000) % 0x400 < 0x10000 by omega) next cs
      change (units start (Printer.unitEscape _ ++ next :: cs) >>= _) = _
      rw [hlow, bind_assoc]
      rfl

/-- The characters of a string are read as their code units, up to the closing quote. -/
theorem units_flatMap_charText (start rest : List Char) (cs : List Char) :
    units start (cs.flatMap Printer.charText ++ '"' :: rest) =
      .ok (cs.flatMap charUnits, rest) := by
  induction cs with
  | nil => rw [List.flatMap_nil, List.flatMap_nil, List.nil_append, units]
  | cons c cs ih =>
      rw [List.flatMap_cons, List.flatMap_cons, List.append_assoc]
      obtain ⟨next, tail, htail⟩ :=
        List.exists_cons_of_ne_nil (List.append_ne_nil_of_right_ne_nil
          (cs.flatMap Printer.charText) (List.cons_ne_nil '"' rest))
      rw [htail, units_charText, ← htail, ih]
      rfl

theorem joinPairs_single {unit : Nat} (h : isHighSurrogate unit = false) (units : List Nat) :
    joinPairs (unit :: units) = charOfUnit unit :: joinPairs units := by
  cases units with
  | nil => rfl
  | cons next rest => rw [joinPairs, h, Bool.false_and, if_neg Bool.false_ne_true]

/-- Both halves of a pair are joined again. -/
theorem joinPairs_charUnits (c : Char) (units : List Nat) :
    joinPairs (charUnits c ++ units) = c :: joinPairs units := by
  have hvalid := toNat_valid c
  unfold charUnits
  split
  next hsmall =>
    have hhigh : isHighSurrogate c.toNat = false := by
      simp only [isHighSurrogate, Bool.and_eq_false_iff, decide_eq_false_iff_not]
      omega
    have hlow : isLowSurrogate c.toNat = false := by
      simp only [isLowSurrogate, Bool.and_eq_false_iff, decide_eq_false_iff_not]
      omega
    rw [List.singleton_append, joinPairs_single hhigh, charOfUnit, hhigh, hlow,
      if_neg (by decide), Char.ofNat_toNat]
  next hlarge =>
    have hhigh : isHighSurrogate (0xd800 + (c.toNat - 0x10000) / 0x400) = true := by
      simp only [isHighSurrogate, Bool.and_eq_true, decide_eq_true_eq]
      omega
    have hlow : isLowSurrogate (0xdc00 + (c.toNat - 0x10000) % 0x400) = true := by
      simp only [isLowSurrogate, Bool.and_eq_true, decide_eq_true_eq]
      omega
    have hcode : 0x10000 + (0xd800 + (c.toNat - 0x10000) / 0x400 - 0xd800) * 0x400 +
        (0xdc00 + (c.toNat - 0x10000) % 0x400 - 0xdc00) = c.toNat := by omega
    rw [List.cons_append, List.singleton_append, joinPairs, hhigh, hlow, Bool.and_true, if_pos rfl,
      hcode, Char.ofNat_toNat]

theorem joinPairs_flatMap_charUnits (cs : List Char) : joinPairs (cs.flatMap charUnits) = cs := by
  induction cs with
  | nil => rfl
  | cons c cs ih => rw [List.flatMap_cons, joinPairs_charUnits, ih]

/-- A string is read back as it was written. -/
theorem string_string (s : String) (rest : List Char) :
    string (Printer.string s ++ rest) = .ok (s, rest) := by
  have hunits := units_flatMap_charText (Printer.string s ++ rest) rest s.toList
  unfold string
  have htail : (Printer.string s ++ rest).tail =
      s.toList.flatMap Printer.charText ++ '"' :: rest := by
    simp [Printer.string]
  rw [htail, hunits, ok_bind]
  dsimp only
  rw [joinPairs_flatMap_charUnits, String.ofList_toList, pure_eq_ok]

end Reader

end Json

end PfaScript
