import PfaScript.Proofs.Entries
import PfaScript.Setting.Merge

/-!
# What is found in merged mappings

Keys are the same if they have one form, however they are written (`Key.same_iff`), so being the
same key is an equivalence. In a mapping that was laid over another one, a key is found as the one
laid over has it, merged with what it covers, and as before if the one laid over does not have it
(`Setting.get?_merge`).
-/

namespace PfaScript

/-! ### Keys -/

namespace Key

/-- What all spellings of a key share: the parts of a number, the place of a point in time, and
otherwise the key itself. -/
inductive Form where
  | number (re im : Part)
  | instant (minute : Int) (second micros : Nat)
  | plain (key : Key)
  | tuple (items : List Form)

mutual

/-- The form of a key. -/
def form : Key → Form
  | .bool b => .number (.whole (if b then 1 else 0)) (.whole 0)
  | .int n => .number (.whole n) (.whole 0)
  | .float x => .number (.ofDouble x) (.whole 0)
  | .complex re im => .number (.ofDouble re) (.ofDouble im)
  | .moment (.time day clock (some zone)) =>
    .instant (Moment.minutePlace day clock zone) clock.second clock.micros
  | .tuple items => .tuple (forms items)
  | key => .plain key

/-- The forms of keys. -/
def forms : List Key → List Form
  | [] => []
  | key :: rest => form key :: forms rest

end

mutual

/-- Keys are the same exactly if they have one form. -/
theorem same_iff (a b : Key) : same a b = true ↔ form a = form b := by
  cases a with
  | tuple as =>
      rcases b with _ | _ | _ | _ | _ | _ | _ | (_ | ⟨_, _, _ | _⟩) | _ | bs
      case tuple => simpa [same, form] using sameAll_iff as bs
      all_goals simp [same, form, number?]
  | moment m =>
      rcases m with _ | ⟨_, _, _ | _⟩ <;>
        rcases b with _ | _ | _ | _ | _ | _ | _ | (_ | ⟨_, _, _ | _⟩) | _ | _ <;>
        simp [same, form, number?, Moment.same, and_assoc]
  | _ =>
      rcases b with _ | _ | _ | _ | _ | _ | _ | (_ | ⟨_, _, _ | _⟩) | _ | _ <;>
        simp [same, form, number?]

theorem sameAll_iff : (as bs : List Key) → (sameAll as bs = true ↔ forms as = forms bs)
  | [], [] => by simp [sameAll, forms]
  | [], _ :: _ => by simp [sameAll, forms]
  | _ :: _, [] => by simp [sameAll, forms]
  | a :: as, b :: bs => by simp [sameAll, forms, same_iff a b, sameAll_iff as bs]

end

instance : EquivBEq Key where
  rfl {a} := (same_iff a a).mpr rfl
  symm {a b} h := (same_iff b a).mpr ((same_iff a b).mp h).symm
  trans {a b c} h h' := (same_iff a c).mpr (((same_iff a b).mp h).trans ((same_iff b c).mp h'))

end Key

/-! ### Looking up -/

/-- No two entries have the same key. -/
def Entries.Distinct {κ α : Type} [BEq κ] (entries : Entries κ α) : Prop :=
  entries.Pairwise fun entry other => (entry.1 == other.1) = false

instance {κ α : Type} [BEq κ] (entries : Entries κ α) : Decidable entries.Distinct :=
  inferInstanceAs (Decidable (List.Pairwise _ entries))

/-- The first key of distinct ones is not found among the others. -/
theorem Entries.Distinct.get?_rest {κ α : Type} [BEq κ] [EquivBEq κ] {key other : κ} {value : α}
    {rest : Entries κ α} (h : Distinct ((key, value) :: rest)) (hkey : key == other) :
    rest.get? other = none := by
  have hne := (List.pairwise_cons.mp h).1
  clear h
  induction rest with
  | nil => rfl
  | cons head tail ih =>
      have hhead : ¬ (head.1 == other) = true := by
        intro heq
        have hsame : (key == head.1) = true := BEq.trans hkey (BEq.symm heq)
        rw [hne head List.mem_cons_self] at hsame
        cases hsame
      rw [get?, if_neg hhead]
      exact ih fun entry hentry => hne entry (List.mem_cons_of_mem _ hentry)

namespace Setting

/-- Whether a setting is itself a mapping. -/
def isMap : Setting → Bool
  | .map _ => true
  | _ => false

/-- What is no mapping takes the place of an old value as it is. -/
theorem replacement_eq_self {value : Setting} (h : value.isMap = false) (old : Option Setting) :
    replacement old value = value := by
  cases value with
  | map entries => cases h
  | _ => rfl

/-- What is found in a mapping after another one was laid over it. -/
theorem get?_merge {changes : Entries Key Setting} (h : changes.Distinct)
    (base : Entries Key Setting) (key : Key) :
    (merge base changes).get? key =
      (changes.get? key).elim (base.get? key) fun value =>
        some (replacement (base.get? key) value) := by
  induction changes generalizing base with
  | nil => rfl
  | cons change rest ih =>
      obtain ⟨k, v⟩ := change
      rw [merge, ih (List.pairwise_cons.mp h).2, Entries.get?_insert, Entries.get?]
      by_cases hk : k == key
      · rw [h.get?_rest hk, if_pos hk, if_pos hk, base.get?_congr hk]
        rfl
      · rw [if_neg hk, if_neg hk]

/-- If no value of the mapping laid over is itself a mapping, it wins wherever it has a value. -/
theorem get?_merge_of_flat {changes : Entries Key Setting} (h : changes.Distinct)
    (hflat : ∀ entry ∈ changes, entry.2.isMap = false) (base : Entries Key Setting) (key : Key) :
    (merge base changes).get? key = (changes.get? key).or (base.get? key) := by
  rw [get?_merge h]
  cases hvalue : changes.get? key with
  | none => rfl
  | some value =>
      obtain ⟨found, hfound, -⟩ := Entries.exists_mem_of_get? hvalue
      rw [Option.elim_some, replacement_eq_self (hflat _ hfound)]
      rfl

end Setting

end PfaScript
