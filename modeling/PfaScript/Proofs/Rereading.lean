import Mathlib.Algebra.Order.BigOperators.Group.List
import PfaScript.Proofs.Keyed
import PfaScript.Proofs.NumberText
import PfaScript.Proofs.StringText
import PfaScript.Run.Render

/-!
# Reading what was written

A text that was written for a value is read as that value (`Json.read?_page`), provided that its
objects have distinct keys and that its doubles are read back as they are. Items and fields are
followed by a comma or a closing bracket, which belong to no number, so that each of them is read up
to its end (`Json.Reader.sequence_texts`); the length of the text is fuel enough.
-/

namespace PfaScript

namespace Json

namespace Reader

variable {fuel : Nat} {c : Char} {cs after rest : List Char} {item : Json} {items : List Json}
  {fields : Entries String Json}

/-! ### Blanks -/

theorem skipBlanks_append {blanks : List Char} (h : ∀ c ∈ blanks, isBlank c = true)
    (cs : List Char) : skipBlanks (blanks ++ cs) = skipBlanks cs := by
  unfold skipBlanks
  rw [List.dropWhile_append_of_pos h]

theorem skipBlanks_cons (h : isBlank c = false) (cs : List Char) :
    skipBlanks (c :: cs) = c :: cs := by
  unfold skipBlanks
  rw [List.dropWhile_cons_of_neg (by rw [h]; decide)]

theorem isBlank_of_mem_gap {indent : Option Nat} {level : Nat} (h : c ∈ Printer.gap indent level) :
    isBlank c = true := by
  cases indent with
  | none => cases h
  | some width =>
      rcases List.mem_cons.mp h with rfl | hspace
      · rfl
      · rw [List.eq_of_mem_replicate hspace]
        rfl

/-- A comma stands before blanks only. -/
theorem comma_eq (indent : Option Nat) (level : Nat) :
    ∃ blanks, Printer.comma indent level = ',' :: blanks ∧ ∀ c ∈ blanks, isBlank c = true := by
  cases indent with
  | none => exact ⟨[' '], rfl, List.forall_mem_singleton.mpr rfl⟩
  | some width => exact ⟨Printer.gap (some width) level, rfl, fun _ => isBlank_of_mem_gap⟩

/-- After a value there is a comma, or a gap and the closing bracket: no part of a number. -/
theorem ends_gap (indent : Option Nat) (level : Nat) {close : Char}
    (hclose : close = ']' ∨ close = '}') (cs : List Char) :
    Ends (Printer.gap indent level ++ close :: cs) := by
  intro c hc
  cases indent with
  | none =>
      cases hc
      rcases hclose with rfl | rfl <;> decide
  | some width =>
      cases hc
      decide

theorem ends_comma (indent : Option Nat) (level : Nat) (cs : List Char) :
    Ends (Printer.comma indent level ++ cs) := by
  obtain ⟨blanks, hcomma, -⟩ := comma_eq indent level
  rw [hcomma]
  intro c hc
  cases hc
  decide

/-! ### How values begin -/

/-- Whether a value can begin with this character, for all that is asked of it: it is not blank,
closes no brackets and is not the mark that some texts begin with. -/
def opensValue (c : Char) : Bool :=
  !isBlank c && c ≠ ']' && c ≠ '}' && c ≠ '\ufeff'

/-- The text begins as a value can. -/
def Opens (text : List Char) : Prop := ∃ c tail, text = c :: tail ∧ opensValue c = true

theorem Opens.skipBlanks (h : Opens cs) (rest : List Char) :
    skipBlanks (cs ++ rest) = cs ++ rest := by
  obtain ⟨c, tail, rfl, hopens⟩ := h
  simp only [opensValue, Bool.and_eq_true, Bool.not_eq_true'] at hopens
  exact skipBlanks_cons hopens.1.1.1 _

theorem Opens.head?_ne (h : Opens cs) (hc : opensValue c = false) (rest : List Char) :
    (cs ++ rest).head? ≠ some c := by
  obtain ⟨d, tail, rfl, hopens⟩ := h
  intro heq
  cases heq
  rw [hopens] at hc
  cases hc

theorem opensValue_of_isDigit (h : c.isDigit = true) : opensValue c = true := by
  have hne : ∀ d : Char, d.isDigit = false → c ≠ d := by
    rintro d hd rfl
    rw [h] at hd
    cases hd
  simp [opensValue, isBlank, hne]

theorem StartsNumber.opens (h : StartsNumber cs) : Opens cs := by
  obtain ⟨c, tail, hdigit, rfl | rfl⟩ := h
  · exact ⟨c, tail, rfl, opensValue_of_isDigit hdigit⟩
  · exact ⟨'-', c :: tail, rfl, by decide⟩

theorem StartsNumber.append (h : StartsNumber cs) (rest : List Char) :
    StartsNumber (cs ++ rest) := by
  obtain ⟨c, tail, hdigit, rfl | rfl⟩ := h
  · exact ⟨c, tail ++ rest, hdigit, .inl rfl⟩
  · exact ⟨c, tail ++ rest, hdigit, .inr rfl⟩

theorem bracketed_eq_cons (indent : Option Nat) (level : Nat) (opening closing : Char)
    (texts : List (List Char)) :
    ∃ tail, Printer.bracketed indent level opening closing texts = opening :: tail := by
  cases texts <;> exact ⟨_, rfl⟩

theorem opens_value (indent : Option Nat) (level : Nat) (v : Json) :
    Opens (Printer.value indent level v) := by
  cases v with
  | null => exact ⟨'n', _, by rw [Printer.value]; rfl, by decide⟩
  | bool b =>
      cases b
      · exact ⟨'f', _, by rw [Printer.value]; rfl, by decide⟩
      · exact ⟨'t', _, by rw [Printer.value]; rfl, by decide⟩
  | int n =>
      rw [Printer.value]
      exact (startsNumber_integer n).opens
  | float x =>
      rw [Printer.value]
      cases x with
      | nan => exact ⟨'N', _, rfl, by decide⟩
      | infinite negative =>
          cases negative
          · exact ⟨'I', _, rfl, by decide⟩
          · exact ⟨'-', _, rfl, by decide⟩
      | finite negative significand exponent =>
          exact (Layout.startsNumber_text negative significand exponent).opens
  | str s => exact ⟨'"', _, by rw [Printer.value]; rfl, by decide⟩
  | arr items =>
      obtain ⟨tail, htail⟩ := bracketed_eq_cons indent level '[' ']' (Printer.values _ _ items)
      exact ⟨'[', tail, by rw [Printer.value, htail], by decide⟩
  | obj fields =>
      obtain ⟨tail, htail⟩ := bracketed_eq_cons indent level '{' '}' (Printer.members _ _ fields)
      exact ⟨'{', tail, by rw [Printer.value, htail], by decide⟩

/-! ### Values -/

theorem value_of_startsNumber (h : StartsNumber cs) (fuel : Nat) :
    value (fuel + 1) cs = number cs := by
  rw [value.eq_def]
  dsimp only
  split
  case h_10 => rfl
  -- Nothing else starts with a digit, or with a minus sign and a digit.
  all_goals
    obtain ⟨c, tail, hdigit, heq⟩ := h
    rcases heq with heq | heq <;> cases heq <;> cases hdigit

theorem value_string (fuel : Nat) (s : String) (rest : List Char) :
    value (fuel + 1) (Printer.string s ++ rest) = .ok (.str s, rest) := by
  have hstring := string_string s rest
  unfold Printer.string at hstring ⊢
  rw [List.cons_append] at hstring ⊢
  rw [value, hstring, ok_bind]
  rfl

/-- A list that is not empty is read by its items. -/
theorem value_bracket (hskip : skipBlanks cs = after) (hne : after.head? ≠ some ']')
    (hitems : sequence ']' (value fuel) fuel after = .ok (items, rest)) :
    value (fuel + 1) ('[' :: cs) = .ok (.arr items, rest) := by
  rw [value, hskip]
  split
  · exact absurd rfl hne
  · rw [hitems]
    rfl

/-- An object that is not empty is read by its fields. -/
theorem value_brace (hskip : skipBlanks cs = after) (hne : after.head? ≠ some '}')
    (hfields : sequence '}' (field (value fuel)) fuel after = .ok (fields, rest)) :
    value (fuel + 1) ('{' :: cs) = .ok (.obj (Entries.ofList fields), rest) := by
  rw [value, hskip]
  split
  · exact absurd rfl hne
  · rw [hfields]
    rfl

/-! ### Sequences -/

variable {indent : Option Nat}

/-- What follows the first of several texts in brackets, with what comes after these. -/
def following (indent : Option Nat) (level : Nat) (closing : Char) (texts : List (List Char))
    (rest : List Char) : List Char :=
  texts.flatMap (Printer.comma indent (level + 1) ++ ·) ++
    (Printer.gap indent level ++ closing :: rest)

theorem bracketed_append (level : Nat) (opening closing : Char) (first : List Char)
    (texts : List (List Char)) (rest : List Char) :
    Printer.bracketed indent level opening closing (first :: texts) ++ rest =
      opening :: (Printer.gap indent (level + 1) ++
        (first ++ following indent level closing texts rest)) := by
  simp [Printer.bracketed, following]

/-- Brackets are longer than the texts in them, and there is room for the commas. -/
theorem length_bracketed (level : Nat) (opening closing : Char) (texts : List (List Char)) :
    texts.length + (texts.map List.length).sum + 1 ≤
      (Printer.bracketed indent level opening closing texts).length := by
  cases texts with
  | nil => simp [Printer.bracketed]
  | cons first texts =>
      have hcommas : texts.length + (texts.map List.length).sum ≤
          (texts.flatMap (Printer.comma indent (level + 1) ++ ·)).length := by
        obtain ⟨blanks, hcomma, -⟩ := comma_eq indent (level + 1)
        induction texts with
        | nil => simp
        | cons text texts ih =>
            simp only [hcomma, List.length_cons, List.map_cons, List.sum_cons, List.flatMap_cons,
              List.length_append] at ih ⊢
            omega
      simp only [Printer.bracketed, List.length_cons, List.map_cons, List.sum_cons,
        List.length_append, List.length_nil]
      omega

theorem ends_following (level : Nat) {closing : Char} (hclosing : closing = ']' ∨ closing = '}')
    (texts : List (List Char)) (rest : List Char) :
    Ends (following indent level closing texts rest) := by
  cases texts with
  | nil => exact ends_gap indent level hclosing rest
  | cons text texts =>
      rw [following, List.flatMap_cons, List.append_assoc, List.append_assoc]
      exact ends_comma indent (level + 1) _

/-- The item is read back from its text, whatever follows. -/
structure ReadsItem {α : Type} (read : List Char → Except Fault (α × List Char)) (text : List Char)
    (item : α) : Prop where
  opens : Opens text
  read (rest : List Char) : Ends rest → read (text ++ rest) = .ok (item, rest)

/-- Items that are read back one by one are read back as a sequence. -/
theorem sequence_texts {α : Type} {read : List Char → Except Fault (α × List Char)}
    {text : α → List Char} (level : Nat) {closing : Char} (hclosing : closing = ']' ∨ closing = '}')
    {first : α} {others : List α} (h : ∀ item ∈ first :: others, ReadsItem read (text item) item)
    (hfuel : others.length < fuel) (rest : List Char) :
    sequence closing read fuel
      (text first ++ following indent level closing (others.map text) rest) =
        .ok (first :: others, rest) := by
  induction others generalizing first fuel with
  | nil =>
      obtain ⟨fuel, rfl⟩ : ∃ n, fuel = n + 1 := ⟨fuel - 1, by omega⟩
      have hblank : isBlank closing = false := by rcases hclosing with rfl | rfl <;> rfl
      rw [sequence, (h first List.mem_cons_self).read _ (ends_following level hclosing _ rest),
        ok_bind]
      simp only [following, List.map_nil, List.flatMap_nil, List.nil_append,
        skipBlanks_append fun _ => isBlank_of_mem_gap, skipBlanks_cons hblank]
      rcases hclosing with rfl | rfl <;> rfl
  | cons item others ih =>
      obtain ⟨fuel, rfl⟩ : ∃ n, fuel = n + 1 := ⟨fuel - 1, by omega⟩
      obtain ⟨blanks, hcomma, hblanks⟩ := comma_eq indent (level + 1)
      obtain ⟨hfirst, hitems⟩ := List.forall_mem_cons.mp h
      have hafter : following indent level closing ((item :: others).map text) rest =
          ',' :: (blanks ++
            (text item ++ following indent level closing (others.map text) rest)) := by
        simp [following, hcomma]
      have hends := @ends_following indent level _ hclosing ((item :: others).map text) rest
      rw [sequence, hfirst.read _ hends, ok_bind, hafter]
      dsimp only
      rw [skipBlanks_cons (by decide)]
      change (sequence closing read fuel (skipBlanks _) >>= _) = _
      rw [skipBlanks_append hblanks, (hitems item List.mem_cons_self).opens.skipBlanks,
        ih hitems (Nat.lt_of_succ_lt_succ hfuel)]
      rfl

/-- What stands in brackets is read back, if there is as much fuel as the whole is long. -/
theorem sequence_bracketed {α : Type} {read : List Char → Except Fault (α × List Char)}
    {text : α → List Char} {level : Nat} {opening closing : Char}
    (hclosing : closing = ']' ∨ closing = '}') {first : α} {others : List α}
    (hfuel : (Printer.bracketed indent level opening closing
      ((first :: others).map text)).length ≤ fuel + 1)
    (h : ∀ item ∈ first :: others, (text item).length ≤ fuel → ReadsItem read (text item) item)
    (rest : List Char) :
    ∃ cs after,
      Printer.bracketed indent level opening closing ((first :: others).map text) ++ rest =
        opening :: cs ∧ skipBlanks cs = after ∧ after.head? ≠ some closing ∧
      sequence closing read fuel after = .ok (first :: others, rest) := by
  have hlength := (length_bracketed level opening closing _).trans hfuel
  have hitems (item : α) (hitem : item ∈ first :: others) : ReadsItem read (text item) item := by
    refine h item hitem ?_
    have hle := List.le_sum_of_mem (List.mem_map_of_mem (f := List.length)
      (List.mem_map_of_mem (f := text) hitem))
    omega
  have hopens := (hitems first List.mem_cons_self).opens
  rw [List.map_cons, bracketed_append]
  refine ⟨_, text first ++ following indent level closing (others.map text) rest, rfl, ?_,
    hopens.head?_ne ?_ _, sequence_texts level hclosing hitems ?_ rest⟩
  · rw [skipBlanks_append fun _ => isBlank_of_mem_gap, hopens.skipBlanks]
  · rcases hclosing with rfl | rfl <;> rfl
  · simp only [List.length_map, List.length_cons] at hlength
    omega

/-! ### Lists and objects -/

/-- The value is read back, wherever it stands and whatever follows, if there is enough fuel. -/
def ReadsBack (indent : Option Nat) (v : Json) : Prop :=
  ∀ level fuel rest, Ends rest → (Printer.value indent level v).length ≤ fuel →
    value fuel (Printer.value indent level v ++ rest) = .ok (v, rest)

theorem exists_fuel {level : Nat} {v : Json}
    (h : (Printer.value indent level v).length ≤ fuel) : ∃ n, fuel = n + 1 := by
  obtain ⟨c, tail, hcons, -⟩ := opens_value indent level v
  rw [hcons, List.length_cons] at h
  exact ⟨fuel - 1, by omega⟩

theorem values_eq_map (indent : Option Nat) (level : Nat) (items : List Json) :
    Printer.values indent level items = items.map (Printer.value indent level) := by
  induction items with
  | nil => rw [Printer.values, List.map_nil]
  | cons item items ih => rw [Printer.values, ih, List.map_cons]

/-- The text of a field. -/
def memberText (indent : Option Nat) (level : Nat) (entry : String × Json) : List Char :=
  Printer.string entry.1 ++ ':' :: ' ' :: Printer.value indent level entry.2

theorem members_eq_map (indent : Option Nat) (level : Nat) (fields : Entries String Json) :
    Printer.members indent level fields = fields.map (memberText indent level) := by
  induction fields with
  | nil => rw [Printer.members, List.map_nil]
  | cons entry fields ih =>
      rw [Printer.members, ih, List.map_cons]
      rfl

theorem readsItem_value (h : ReadsBack indent item) {level : Nat}
    (hfuel : (Printer.value indent level item).length ≤ fuel) :
    ReadsItem (value fuel) (Printer.value indent level item) item where
  opens := opens_value indent level item
  read rest hends := h level fuel rest hends hfuel

theorem readsItem_field {entry : String × Json} (h : ReadsBack indent entry.2) {level : Nat}
    (hfuel : (memberText indent level entry).length ≤ fuel) :
    ReadsItem (field (value fuel)) (memberText indent level entry) entry where
  opens := ⟨'"', _, rfl, by decide⟩
  read rest hends := by
    obtain ⟨key, item⟩ := entry
    simp only [memberText, List.length_append, List.length_cons] at hfuel
    have hkey := string_string key (':' :: ' ' :: (Printer.value indent level item ++ rest))
    rw [memberText, List.append_assoc, List.cons_append, List.cons_append]
    unfold Printer.string at hkey ⊢
    rw [List.cons_append] at hkey ⊢
    rw [field, hkey, ok_bind]
    change (value fuel (skipBlanks (Printer.value indent level item ++ rest)) >>= _) = _
    rw [(opens_value indent level item).skipBlanks,
      h level fuel rest hends (by dsimp only; omega)]
    rfl

theorem readsBack_arr (h : ∀ item ∈ items, ReadsBack indent item) :
    ReadsBack indent (.arr items) := by
  intro level fuel rest _ hfuel
  obtain ⟨fuel, rfl⟩ := exists_fuel hfuel
  rw [Printer.value, values_eq_map] at hfuel ⊢
  cases items with
  | nil => rfl
  | cons first others =>
      obtain ⟨cs, after, htext, hskip, hne, hitems⟩ := sequence_bracketed (.inl rfl) hfuel
        (fun item hitem => readsItem_value (h item hitem)) rest
      rw [htext, value_bracket hskip hne hitems]

theorem readsBack_obj (hnodup : fields.keys.Nodup)
    (h : ∀ entry ∈ fields, ReadsBack indent entry.2) : ReadsBack indent (.obj fields) := by
  intro level fuel rest _ hfuel
  obtain ⟨fuel, rfl⟩ := exists_fuel hfuel
  rw [Printer.value, members_eq_map] at hfuel ⊢
  -- assigning the fields one after the other leaves them as they are
  have hofList : Entries.ofList fields = fields := Entries.update_eq_append hnodup (by simp)
  cases fields with
  | nil => rfl
  | cons first others =>
      obtain ⟨cs, after, htext, hskip, hne, hfields⟩ := sequence_bracketed (.inr rfl) hfuel
        (fun entry hentry => readsItem_field (h entry hentry)) rest
      rw [htext, value_brace hskip hne hfields, hofList]

end Reader

/-! ### Atoms -/

/-- The atoms of a list are those of its items. -/
theorem mem_atoms_arr {items : List Json} {a : Json} :
    a ∈ (arr items).atoms ↔ ∃ item ∈ items, a ∈ item.atoms := by
  rw [atoms]
  induction items with
  | nil => simp [atomsItems]
  | cons item rest ih => simp [atomsItems, ih]

/-- The atoms of a mapping are those of its values. -/
theorem mem_atoms_obj {fields : Entries String Json} {a : Json} :
    a ∈ (obj fields).atoms ↔ ∃ entry ∈ fields, a ∈ entry.2.atoms := by
  rw [atoms]
  induction fields with
  | nil => simp [atomsFields]
  | cons entry rest ih => simp [atomsFields, ih]

theorem hasLong_eq_false_iff {v : Json} :
    v.hasLong = false ↔ ∀ a ∈ v.atoms, a.isLong = false := by
  rw [hasLong, List.any_eq_false]
  simp only [Bool.not_eq_true]

/-- Sorting keeps the atoms. -/
theorem mem_atoms_sortKeys {v : Json} (h : Keyed v) (a : Json) :
    a ∈ v.sortKeys.atoms ↔ a ∈ v.atoms := by
  induction h with
  | arr _ ih =>
      rw [Json.sortKeys, sortItems_eq_map, mem_atoms_arr, mem_atoms_arr]
      simp only [List.mem_map, exists_exists_and_eq_and]
      exact exists_congr fun item => and_congr_right fun hitem => ih item hitem
  | @obj fields _ _ ih =>
      rw [sortKeys_obj, mem_atoms_obj, mem_atoms_obj]
      constructor
      · rintro ⟨_, hsorted, ha⟩
        obtain ⟨entry, hentry, rfl⟩ := mem_sortEntries hsorted
        exact ⟨entry, hentry, (ih entry hentry).mp ha⟩
      · rintro ⟨entry, hentry, ha⟩
        refine ⟨(entry.1, entry.2.sortKeys), (sortEntries_perm fields).symm.subset ?_,
          (ih entry hentry).mpr ha⟩
        rw [sortFields_eq_map]
        exact List.mem_map_of_mem hentry
  | _ => rw [Json.sortKeys]

/-- Stripping adds no atoms. -/
theorem atoms_strip {v : Json} (h : Keyed v) : ∀ a ∈ v.strip.atoms, a ∈ v.atoms := by
  induction h with
  | arr _ ih =>
      intro a ha
      rw [strip, stripItems_eq_map, mem_atoms_arr] at ha
      obtain ⟨_, hstripped, ha⟩ := ha
      obtain ⟨item, hitem, rfl⟩ := List.mem_map.mp hstripped
      exact mem_atoms_arr.mpr ⟨item, hitem, ih item hitem a ha⟩
  | obj _ _ ih =>
      intro a ha
      rw [strip, mem_atoms_obj] at ha
      obtain ⟨_, hstripped, ha⟩ := ha
      obtain ⟨entry, hentry, rfl⟩ := mem_stripFields hstripped
      exact mem_atoms_obj.mpr ⟨entry, hentry, ih entry hentry a ha⟩
  | _ =>
      intro a ha
      rwa [strip] at ha

/-- Every double in the value is read back from its text. -/
def DoublesReadBack (v : Json) : Prop :=
  ∀ x, .float x ∈ v.atoms → read? (Layout.json.text x) = .ok (.float x)

namespace Reader

theorem document_ok_iff {cs : List Char} {v : Json} :
    document cs = .ok v ↔
      ∃ rest, value (cs.length + 1) (skipBlanks cs) = .ok (v, rest) ∧ skipBlanks rest = [] := by
  unfold document
  rw [bind_eq_ok_iff]
  constructor
  · rintro ⟨⟨found, rest⟩, hvalue, hend⟩
    dsimp only at hend
    split at hend
    next hnil =>
      cases hend
      exact ⟨rest, hvalue, hnil⟩
    next => cases hend
  · rintro ⟨rest, hvalue, hnil⟩
    refine ⟨(v, rest), hvalue, ?_⟩
    dsimp only
    rw [hnil]
    rfl

end Reader

open Reader

theorem read?_ok_iff {text : String} {v : Json} :
    read? text = .ok v ↔
      text.toList.head? ≠ some '\ufeff' ∧ Reader.document text.toList = .ok v := by
  unfold read?
  dsimp only
  split
  next hmark => simp [hmark]
  next hmark =>
    cases Reader.document text.toList with
    | ok found => simp [hmark]
    | error fault => simp

namespace Reader

/-- The text of a finite double is a number and nothing else. -/
theorem number_text {negative : Bool} {significand : Nat} {exponent : Int} {v : Json}
    (h : read? (Layout.json.text (.finite negative significand exponent)) = .ok v) :
    number (Layout.json.text (.finite negative significand exponent)).toList = .ok (v, []) := by
  obtain ⟨rest, hvalue, hblank⟩ := document_ok_iff.mp (read?_ok_iff.mp h).2
  have hstarts := Layout.startsNumber_text negative significand exponent
  have hchars : ∀ c ∈ (Layout.json.text (.finite negative significand exponent)).toList,
      Layout.isNumberChar c = true := fun _ => Layout.isNumberChar_of_mem_text
  generalize (Layout.json.text (.finite negative significand exponent)).toList = cs at *
  have hskip := hstarts.opens.skipBlanks []
  rw [List.append_nil] at hskip
  rw [hskip, value_of_startsNumber hstarts] at hvalue
  -- what is left has blanks only, and a number has none
  cases rest with
  | nil => exact hvalue
  | cons d rest =>
      have hmem : d ∈ cs := (number_suffix hstarts hvalue).subset List.mem_cons_self
      have hd : isBlank d = false := by
        have hnumber := hchars d hmem
        cases hblank : isBlank d with
        | false => rfl
        | true =>
            simp only [isBlank, Bool.or_eq_true, decide_eq_true_eq] at hblank
            rcases hblank with ((rfl | rfl) | rfl) | rfl <;> cases hnumber
      rw [skipBlanks_cons hd] at hblank
      cases hblank

theorem readsBack_float {x : Double} (h : read? (Layout.json.text x) = .ok (.float x)) :
    ReadsBack indent (.float x) := by
  intro level fuel rest hends hfuel
  obtain ⟨fuel, rfl⟩ := exists_fuel hfuel
  rw [Printer.value]
  cases x with
  | nan => rfl
  | infinite negative => cases negative <;> rfl
  | finite negative significand exponent =>
      have hstarts := Layout.startsNumber_text negative significand exponent
      rw [value_of_startsNumber (hstarts.append rest), hends.number_append hstarts (number_text h)]
      rfl

theorem readsBack_int {n : Int} (h : Integer.isLong n = false) : ReadsBack indent (.int n) := by
  intro level fuel rest hends hfuel
  obtain ⟨fuel, rfl⟩ := exists_fuel hfuel
  have hstarts := startsNumber_integer n
  rw [Printer.value, value_of_startsNumber (hstarts.append rest),
    hends.number_append hstarts (number_integer h)]
  rfl

theorem readsBack_str (s : String) : ReadsBack indent (.str s) := by
  intro level fuel rest _ hfuel
  obtain ⟨fuel, rfl⟩ := exists_fuel hfuel
  rw [Printer.value]
  exact value_string fuel s rest

theorem readsBack_null : ReadsBack indent .null := by
  intro level fuel rest _ hfuel
  obtain ⟨fuel, rfl⟩ := exists_fuel hfuel
  rw [Printer.value]
  rfl

theorem readsBack_bool (b : Bool) : ReadsBack indent (.bool b) := by
  intro level fuel rest _ hfuel
  obtain ⟨fuel, rfl⟩ := exists_fuel hfuel
  cases b <;> rw [Printer.value] <;> rfl

end Reader

/-- A keyed value is read back, if its doubles are and its integers are not too long. -/
theorem Keyed.readsBack {v : Json} (h : Keyed v) (hdoubles : v.DoublesReadBack)
    (hshort : ∀ a ∈ v.atoms, a.isLong = false) (indent : Option Nat) : ReadsBack indent v := by
  induction h with
  | null => exact readsBack_null
  | bool b => exact readsBack_bool b
  | int n => exact readsBack_int (hshort (.int n) (by simp [atoms]))
  | float x => exact readsBack_float (hdoubles x (by simp [atoms]))
  | str s => exact readsBack_str s
  | @arr items _ ih =>
      have hmem {item a : Json} (hitem : item ∈ items) (ha : a ∈ item.atoms) :
          a ∈ (Json.arr items).atoms := mem_atoms_arr.mpr ⟨item, hitem, ha⟩
      exact readsBack_arr fun item hitem => ih item hitem
        (fun x hx => hdoubles x (hmem hitem hx)) fun a ha => hshort a (hmem hitem ha)
  | @obj fields hnodup _ ih =>
      have hmem {entry : String × Json} {a : Json} (hentry : entry ∈ fields)
          (ha : a ∈ entry.2.atoms) : a ∈ (Json.obj fields).atoms :=
        mem_atoms_obj.mpr ⟨entry, hentry, ha⟩
      exact readsBack_obj hnodup fun entry hentry => ih entry hentry
        (fun x hx => hdoubles x (hmem hentry hx)) fun a ha => hshort a (hmem hentry ha)

/-! ### Whole texts -/

/-- The value in the order in which a style writes it. -/
def Style.arrange (style : Style) (v : Json) : Json :=
  if style.sortKeys then v.sortKeys else v

theorem Keyed.arrange {v : Json} (h : Keyed v) (style : Style) : Keyed (style.arrange v) := by
  unfold Style.arrange
  split
  · exact h.sortKeys
  · exact h

theorem Keyed.mem_atoms_arrange {v : Json} (h : Keyed v) (style : Style) (a : Json) :
    a ∈ (style.arrange v).atoms ↔ a ∈ v.atoms := by
  unfold Style.arrange
  split
  · exact mem_atoms_sortKeys h a
  · rfl

theorem isText_arrange (style : Style) (v : Json) : (style.arrange v).isText = v.isText := by
  unfold Style.arrange
  split
  · cases v <;> simp only [sortKeys, isText]
  · rfl

/-- Only the arrangement of a value shows in its text. -/
theorem Keyed.page_eq_of_arrange {v w : Json} {style : Style} (hv : Keyed v) (hw : Keyed w)
    (h : style.arrange v = style.arrange w) : v.page style = w.page style := by
  have htext : v.isText = w.isText := by
    rw [← isText_arrange style v, h, isText_arrange]
  have hlong : v.hasLong = w.hasLong := by
    rw [Bool.eq_iff_iff, hasLong, hasLong, List.any_eq_true, List.any_eq_true]
    refine exists_congr fun a => and_congr_left fun _ => ?_
    rw [← hv.mem_atoms_arrange style, h, hw.mem_atoms_arrange]
  have hrender : v.render style = w.render style :=
    congrArg (fun u => String.ofList (Printer.value _ 0 u)) h
  rw [page, page, htext, hlong, hrender]

/-- A value has a text if the indent fits and no integer has too many digits. The indent of a text
does not matter. -/
theorem page_ok_iff {v : Json} {style : Style} {text : String} :
    v.page style = .ok text ↔
      (style.indentFits = true ∨ v.isText = true) ∧ v.hasLong = false ∧
        text.toList =
          Printer.value (style.indent.map Int.toNat) 0 (style.arrange v) ++ ['\n'] := by
  have htext : (v.render style ++ "\n").toList =
      Printer.value (style.indent.map Int.toNat) 0 (style.arrange v) ++ ['\n'] := by
    rw [String.toList_append, render, String.toList_ofList]
    rfl
  rw [← htext, String.toList_inj, ← Bool.or_eq_true, page]
  by_cases hfits : (style.indentFits || v.isText) = true <;> by_cases hlong : v.hasLong = true <;>
    simp [hfits, hlong, eq_comm]

/-- An indent is too wide if it does not fit and the value is no text. -/
theorem page_wideIndent_iff {v : Json} {style : Style} :
    v.page style = .error .wideIndent ↔ style.indentFits = false ∧ v.isText = false := by
  rw [page, ← Bool.or_eq_false_iff]
  by_cases hfits : (style.indentFits || v.isText) = true <;> by_cases hlong : v.hasLong = true <;>
    simp [hfits, hlong]

/-- What was written for a keyed value is read as that value, in the order in which it stands. -/
theorem read?_page {v : Json} {style : Style} {text : String} (h : Keyed v)
    (hdoubles : v.DoublesReadBack) (hpage : v.page style = .ok text) :
    read? text = .ok (style.arrange v) := by
  obtain ⟨-, hshort, htext⟩ := page_ok_iff.mp hpage
  rw [hasLong_eq_false_iff] at hshort
  have hatoms := h.mem_atoms_arrange style
  have hends : Ends ['\n'] := by
    intro c hc
    cases hc
    decide
  rw [read?_ok_iff, document_ok_iff, htext]
  constructor
  · exact (opens_value _ _ _).head?_ne rfl _
  · refine ⟨['\n'], ?_, rfl⟩
    rw [(opens_value _ _ _).skipBlanks]
    refine (h.arrange style).readsBack (fun x hx => hdoubles x ((hatoms _).mp hx))
      (fun a ha => hshort a ((hatoms a).mp ha)) _ 0 _ _ hends ?_
    rw [List.length_append]
    omega

/-! ### Line ends -/

namespace Printer

theorem return_not_mem_unitEscape (unit : Nat) : '\r' ∉ unitEscape unit := by
  have hhex : ∀ n, '\r' ≠ hexDigit (n % 16) := by
    have hall : ∀ n < 16, '\r' ≠ hexDigit n := by decide
    exact fun n => hall _ (Nat.mod_lt _ (by decide))
  simp [unitEscape, hhex]

theorem return_not_mem_string (s : String) : '\r' ∉ string s := by
  have hchar : ∀ c, '\r' ∉ charText c := by
    intro c
    have hwritten := Reader.written_charText c
    generalize charText c = text at hwritten
    cases hwritten with
    | letter hletter _ =>
        intro hmem
        rcases List.mem_cons.mp hmem with h | h
        · cases h
        · rw [← List.mem_singleton.mp h] at hletter
          cases hletter
    | plain _ _ hreturn _ _ =>
        rw [List.mem_singleton]
        exact Ne.symm hreturn
    | unit _ => exact return_not_mem_unitEscape _
    | pair _ =>
        rw [List.mem_append]
        exact not_or.mpr ⟨return_not_mem_unitEscape _, return_not_mem_unitEscape _⟩
  simp [string, hchar]

theorem return_not_mem_gap (indent : Option Nat) (level : Nat) : '\r' ∉ gap indent level := by
  cases indent <;> simp [gap]

theorem return_not_mem_comma (indent : Option Nat) (level : Nat) : '\r' ∉ comma indent level := by
  cases indent <;> simp [comma, gap]

theorem return_not_mem_float (x : Double) : '\r' ∉ (Layout.json.text x).toList := by
  cases x with
  | nan => decide
  | infinite negative => cases negative <;> decide
  | finite negative significand exponent =>
      intro hmem
      cases Layout.isNumberChar_of_mem_text hmem

theorem return_not_mem_integer (n : Int) : '\r' ∉ integer n := by
  have hdigits : '\r' ∉ Layout.natDigits n.natAbs := by
    intro hmem
    cases Reader.isDigit_of_mem_natDigits hmem
  unfold integer
  split <;> simp [hdigits]

theorem return_not_mem_bracketed (indent : Option Nat) (level : Nat) {opening closing : Char}
    (hopening : '\r' ≠ opening) (hclosing : '\r' ≠ closing) {texts : List (List Char)}
    (h : ∀ text ∈ texts, '\r' ∉ text) : '\r' ∉ bracketed indent level opening closing texts := by
  cases texts with
  | nil => simp [bracketed, hopening, hclosing]
  | cons first rest =>
      rw [List.forall_mem_cons] at h
      simpa [bracketed, hopening, hclosing, return_not_mem_gap, return_not_mem_comma, h.1] using h.2

/-- No text has a carriage return in it: strings escape theirs. -/
theorem return_not_mem_value (indent : Option Nat) {v : Json} (h : Keyed v) (level : Nat) :
    '\r' ∉ value indent level v := by
  induction h generalizing level with
  | null =>
      rw [value]
      decide
  | bool b => cases b <;> rw [value] <;> decide
  | int n =>
      rw [value]
      exact return_not_mem_integer n
  | float x =>
      rw [value]
      exact return_not_mem_float x
  | str s =>
      rw [value]
      exact return_not_mem_string s
  | arr _ ih =>
      rw [value, Reader.values_eq_map]
      refine return_not_mem_bracketed indent level (by decide) (by decide) ?_
      exact List.forall_mem_map.mpr fun item hitem => ih item hitem (level + 1)
  | obj _ _ ih =>
      rw [value, Reader.members_eq_map]
      refine return_not_mem_bracketed indent level (by decide) (by decide) ?_
      refine List.forall_mem_map.mpr fun entry hentry => ?_
      simp [Reader.memberText, return_not_mem_string, ih entry hentry (level + 1)]

end Printer

theorem return_not_mem_page {v : Json} {style : Style} {text : String} (h : Keyed v)
    (hpage : v.page style = .ok text) : '\r' ∉ text.toList := by
  rw [(page_ok_iff.mp hpage).2.2]
  simp [Printer.return_not_mem_value _ (h.arrange style)]

end Json

end PfaScript
