import PfaScript.Entries
import Mathlib.Data.List.Induction
import Mathlib.Data.List.Nodup
import Mathlib.Data.List.Perm.Subperm
import Mathlib.Tactic.Common

/-!
# Laws of ordered entries

What assigning does to the keys and to the entries of a mapping. Keys stay distinct
(`nodup_keys_ofList`), no entry comes from nowhere (`mem_of_mem_ofList`), and assigning entries with
new keys is appending them (`update_eq_append`). Of listed entries with one key the first one has
the place (`keys_ofList`) and the last one the value (`get?_ofList`). Entries that are `Paired` with
others stay so when mappings are made of them (`Paired.ofList`).
-/

namespace PfaScript

namespace Entries

variable {κ α β : Type} {entries changes : Entries κ α} {key other : κ} {value : α} {entry : κ × α}

@[simp] theorem keys_nil : keys ([] : Entries κ α) = [] := rfl

@[simp] theorem keys_cons (key : κ) (value : α) (rest : Entries κ α) :
    keys ((key, value) :: rest) = key :: keys rest := rfl

@[simp] theorem keys_append (entries others : Entries κ α) :
    keys (entries ++ others) = keys entries ++ keys others := by
  simp [keys]

/-- The key of an entry is among the keys. -/
theorem mem_keys_of_mem (h : entry ∈ entries) : entry.1 ∈ keys entries :=
  List.mem_map_of_mem h

/-- Two lists of entries with the same keys and, key by key, related values. -/
def Paired (R : κ → α → β → Prop) (entries : Entries κ α) (others : Entries κ β) : Prop :=
  List.Forall₂ (fun entry other => entry.1 = other.1 ∧ R entry.1 entry.2 other.2) entries others

theorem Paired.exists_of_mem_right {R : κ → α → β → Prop} {others : Entries κ β}
    (h : Paired R entries others) {other : β} (hmem : (key, other) ∈ others) :
    ∃ value, (key, value) ∈ entries ∧ R key value other := by
  induction h with
  | nil => cases hmem
  | @cons head head' rest rest' hhead hrest ih =>
      rcases List.mem_cons.mp hmem with heq | hmem
      · subst heq
        obtain ⟨k, v⟩ := head
        obtain ⟨rfl, hhead⟩ := hhead
        exact ⟨v, List.mem_cons_self, hhead⟩
      · obtain ⟨value, hvalue, hR⟩ := ih hmem
        exact ⟨value, List.mem_cons_of_mem _ hvalue, hR⟩

variable [BEq κ]

/-- A key is looked up in the first of two mappings, then in the second. -/
theorem get?_append (entries others : Entries κ α) (key : κ) :
    get? (entries ++ others) key = (entries.get? key <|> others.get? key) := by
  induction entries with
  | nil => rfl
  | cons head rest ih =>
      obtain ⟨k, v⟩ := head
      simp only [List.cons_append, get?, ih]
      split <;> rfl

/-- What is found is the value of an entry with the same key. -/
theorem exists_mem_of_get? (h : entries.get? key = some value) :
    ∃ found, (found, value) ∈ entries ∧ found == key := by
  induction entries with
  | nil => cases h
  | cons head rest ih =>
      obtain ⟨k, v⟩ := head
      rw [get?] at h
      split at h
      · cases h
        exact ⟨k, List.mem_cons_self, ‹_›⟩
      · obtain ⟨found, hfound, hkey⟩ := ih h
        exact ⟨found, List.mem_cons_of_mem _ hfound, hkey⟩

/-- A mapping contains the keys under which something is found. -/
theorem contains_eq_isSome (entries : Entries κ α) (key : κ) :
    entries.contains key = (entries.get? key).isSome := by
  induction entries with
  | nil => rfl
  | cons head rest ih =>
      rw [get?, contains, List.any_cons, ← contains, ih]
      cases head.1 == key <;> rfl

/-- A new key comes last, and one that is there keeps its place. -/
theorem keys_insert_eq (entries : Entries κ α) (key : κ) (value : α) :
    (entries.insert key value).keys =
      entries.keys ++ if entries.contains key then [] else [key] := by
  induction entries with
  | nil => rfl
  | cons head rest ih =>
      rw [insert, contains, List.any_cons, ← contains]
      cases head.1 == key with
      | true => exact (List.append_nil _).symm
      | false => exact congrArg (head.1 :: ·) ih

/-- To assign what is found changes nothing. -/
theorem insert_eq_self (h : entries.get? key = some value) :
    entries.insert key value = entries := by
  induction entries with
  | nil => cases h
  | cons head rest ih =>
      obtain ⟨k, v⟩ := head
      rw [get?] at h
      rw [insert]
      split at h
      · rw [if_pos ‹_›, Option.some.inj h]
      · rw [if_neg ‹_›, ih h]

/-- Of two assignments to one key the last one counts. -/
theorem insert_insert [ReflBEq κ] (entries : Entries κ α) (key : κ) (value later : α) :
    (entries.insert key value).insert key later = entries.insert key later := by
  induction entries with
  | nil => simp [insert]
  | cons head rest ih =>
      simp only [insert]
      split
      next hk => rw [insert, if_pos hk]
      next hk => rw [insert, if_neg hk, ih]

/-- Keys that are the same find the same. -/
theorem get?_congr [PartialEquivBEq κ] (entries : Entries κ α) (h : key == other) :
    entries.get? key = entries.get? other := by
  induction entries with
  | nil => rfl
  | cons head rest ih => rw [get?, get?, ih, BEq.congr_right h]

/-- After an assignment the value is found under its key, and all else as before. -/
theorem get?_insert [PartialEquivBEq κ] (entries : Entries κ α) (key other : κ) (value : α) :
    (entries.insert key value).get? other =
      if key == other then some value else entries.get? other := by
  induction entries with
  | nil => rfl
  | cons head rest ih =>
      obtain ⟨k, v⟩ := head
      rw [insert]
      by_cases hk : k == key
      · rw [if_pos hk, get?, get?, BEq.congr_left hk]
        split <;> rfl
      · rw [if_neg hk, get?, get?, ih]
        by_cases hother : k == other
        · have hne : ¬ (key == other) = true := fun h => hk (BEq.trans hother (BEq.symm h))
          rw [if_pos hother, if_neg hne, if_pos hother]
        · rw [if_neg hother, if_neg hother]

@[simp] theorem update_nil (entries : Entries κ α) : entries.update [] = entries := rfl

@[simp] theorem update_cons (entries : Entries κ α) (key : κ) (value : α)
    (changes : Entries κ α) :
    entries.update ((key, value) :: changes) = (entries.insert key value).update changes := rfl

/-- The entry that is listed last is assigned last. -/
theorem ofList_concat (entries : List (κ × α)) (key : κ) (value : α) :
    ofList (entries ++ [(key, value)]) = (ofList entries).insert key value := by
  rw [ofList, update, List.foldl_append]
  rfl

/-- Of the listed entries with a key the last one is found. -/
theorem get?_ofList [PartialEquivBEq κ] (entries : List (κ × α)) (key : κ) :
    (ofList entries).get? key = get? entries.reverse key := by
  induction entries using List.reverseRecOn with
  | nil => rfl
  | append_singleton front last ih =>
      rw [ofList_concat, get?_insert, ih, List.reverse_concat, get?]

variable [LawfulBEq κ]

/-- A mapping contains exactly its keys. -/
@[simp] theorem contains_iff : entries.contains key = true ↔ key ∈ keys entries := by
  simp [contains, keys]

/-! ### Assigning one entry -/

/-- An entry of a mapping after an assignment is an old entry or the assigned one. -/
theorem mem_of_mem_insert (h : entry ∈ entries.insert key value) :
    entry ∈ entries ∨ entry = (key, value) := by
  induction entries with
  | nil =>
      rw [insert, List.mem_singleton] at h
      exact Or.inr h
  | cons head rest ih =>
      obtain ⟨k, v⟩ := head
      rw [insert] at h
      by_cases hk : k == key
      · rw [if_pos hk, List.mem_cons] at h
        rcases h with rfl | h
        · rw [eq_of_beq hk]
          exact Or.inr rfl
        · exact Or.inl (List.mem_cons_of_mem _ h)
      · rw [if_neg hk, List.mem_cons] at h
        rcases h with rfl | h
        · exact Or.inl List.mem_cons_self
        · exact (ih h).imp_left (List.mem_cons_of_mem _)

/-- Assigning to a key keeps the keys, and appends the key if it is new. -/
theorem keys_insert [DecidableEq κ] (entries : Entries κ α) (key : κ) (value : α) :
    keys (entries.insert key value) =
      if key ∈ keys entries then keys entries else keys entries ++ [key] := by
  simp only [keys_insert_eq, contains_iff]
  split
  · rw [List.append_nil]
  · rfl

/-- Assigning to a new key appends the entry. -/
theorem insert_eq_append (value : α) (h : key ∉ keys entries) :
    entries.insert key value = entries ++ [(key, value)] := by
  induction entries with
  | nil => rfl
  | cons head rest ih =>
      obtain ⟨k, v⟩ := head
      rw [keys_cons, List.mem_cons, not_or] at h
      have hne : ¬ (k == key) = true := by simpa using Ne.symm h.1
      rw [insert, if_neg hne, ih h.2]
      rfl

/-- Distinct keys stay distinct. -/
theorem nodup_keys_insert (h : (keys entries).Nodup) (key : κ) (value : α) :
    (keys (entries.insert key value)).Nodup := by
  classical
  rw [keys_insert]
  by_cases hmem : key ∈ keys entries
  · rwa [if_pos hmem]
  · rw [if_neg hmem]
    exact List.nodup_append.2 ⟨h, List.nodup_singleton key, by
      rintro a ha b hb rfl
      exact hmem (List.mem_singleton.1 hb ▸ ha)⟩

/-- The keys after an assignment are the old ones and the assigned one. -/
theorem mem_keys_insert :
    other ∈ keys (entries.insert key value) ↔ other ∈ keys entries ∨ other = key := by
  classical
  rw [keys_insert]
  by_cases hmem : key ∈ keys entries
  · rw [if_pos hmem]
    exact ⟨Or.inl, fun h => h.elim id fun heq => heq ▸ hmem⟩
  · simp [hmem]

/-! ### Assigning many entries -/

/-- An entry of an updated mapping is an old entry or one of the changes. -/
theorem mem_of_mem_update (h : entry ∈ entries.update changes) :
    entry ∈ entries ∨ entry ∈ changes := by
  induction changes generalizing entries with
  | nil => exact Or.inl h
  | cons head rest ih =>
      obtain ⟨k, v⟩ := head
      rcases ih h with h | h
      · rcases mem_of_mem_insert h with h | rfl
        · exact Or.inl h
        · exact Or.inr List.mem_cons_self
      · exact Or.inr (List.mem_cons_of_mem _ h)

/-- The keys of an updated mapping are the old ones and those of the changes. -/
theorem mem_keys_update :
    key ∈ keys (entries.update changes) ↔ key ∈ keys entries ∨ key ∈ keys changes := by
  induction changes generalizing entries with
  | nil => simp
  | cons head rest ih =>
      obtain ⟨k, v⟩ := head
      rw [update_cons, ih, mem_keys_insert, keys_cons, List.mem_cons, or_assoc]

/-- Distinct keys stay distinct. -/
theorem nodup_keys_update (h : (keys entries).Nodup) (changes : Entries κ α) :
    (keys (entries.update changes)).Nodup := by
  induction changes generalizing entries with
  | nil => exact h
  | cons head rest ih => exact ih (nodup_keys_insert h head.1 head.2)

/-- Assigning entries whose keys are distinct and new is appending them. -/
theorem update_eq_append (h : (keys changes).Nodup)
    (hnew : ∀ key ∈ keys changes, key ∉ keys entries) :
    entries.update changes = entries ++ changes := by
  induction changes generalizing entries with
  | nil => simp
  | cons head rest ih =>
      obtain ⟨k, v⟩ := head
      rw [keys_cons, List.nodup_cons] at h
      have hk : k ∉ keys entries := hnew k List.mem_cons_self
      rw [update_cons, insert_eq_append v hk, ih h.2, List.append_assoc]
      · rfl
      · intro key hkey
        rw [keys_append, List.mem_append, not_or]
        refine ⟨hnew key (List.mem_cons_of_mem _ hkey), fun hmem => h.1 ?_⟩
        have heq : key = k := List.mem_singleton.1 hmem
        exact heq ▸ hkey

/-! ### Mappings made of listed entries -/

theorem mem_of_mem_ofList {entries : List (κ × α)} (h : entry ∈ ofList entries) : entry ∈ entries :=
  (mem_of_mem_update h).resolve_left List.not_mem_nil

@[simp] theorem mem_keys_ofList {entries : List (κ × α)} :
    key ∈ keys (ofList entries) ↔ key ∈ keys entries := by
  simp [ofList, mem_keys_update]

/-- The keys of a mapping made of listed entries are distinct. -/
theorem nodup_keys_ofList (entries : List (κ × α)) : (keys (ofList entries)).Nodup :=
  nodup_keys_update (by simp) entries

/-- The keys of a mapping made of listed entries are those listed, in the order of their first
occurrences. -/
theorem keys_ofList (entries : List (κ × α)) :
    keys (ofList entries) = (keys entries).eraseDups := by
  classical
  induction entries using List.reverseRecOn with
  | nil => rfl
  | append_singleton front last ih =>
      obtain ⟨key, value⟩ := last
      rw [ofList_concat, keys_insert, ih, keys_append, List.eraseDups_append]
      by_cases hmem : key ∈ keys front
      · simp [hmem, List.removeAll]
      · simp [hmem, List.removeAll, List.eraseDups_cons]

/-- Entries with distinct keys are a mapping as they are listed. -/
theorem ofList_eq_self {entries : List (κ × α)} (h : (keys entries).Nodup) :
    ofList entries = entries := by
  rw [ofList, update_eq_append h (by simp), List.nil_append]

/-- A mapping made of listed entries has fewer if a key is listed twice. -/
theorem length_ofList_lt {entries : List (κ × α)} (h : ¬ (keys entries).Nodup) :
    (ofList entries).length < entries.length := by
  have hsub : List.Subperm (keys (ofList entries)) (keys entries) :=
    List.subperm_of_subset (nodup_keys_ofList entries) fun _ => mem_keys_ofList.mp
  have hlength : (keys (ofList entries)).length < (keys entries).length := by
    by_contra hge
    exact h ((hsub.perm_of_length_le (Nat.not_lt.mp hge)).nodup (nodup_keys_ofList entries))
  simpa [keys] using hlength

/-- A mapping made of listed entries is empty only if nothing is listed. -/
theorem ofList_ne_nil {entries : List (κ × α)} (h : entries ≠ []) : ofList entries ≠ [] := by
  obtain ⟨head, rest, rfl⟩ := List.exists_cons_of_ne_nil h
  intro hnil
  have hmem : head.1 ∈ keys (ofList (head :: rest)) := mem_keys_ofList.2 List.mem_cons_self
  rw [hnil] at hmem
  exact List.not_mem_nil hmem

/-- In a mapping with distinct keys every entry is found under its key. -/
theorem get?_of_mem (hnodup : (keys entries).Nodup) (h : (key, value) ∈ entries) :
    entries.get? key = some value := by
  induction entries with
  | nil => cases h
  | cons head rest ih =>
      obtain ⟨k, v⟩ := head
      rw [keys_cons, List.nodup_cons] at hnodup
      rw [get?]
      rcases List.mem_cons.mp h with heq | hrest
      · cases heq
        rw [if_pos (beq_self_eq_true _)]
      · have hne : ¬ (k == key) = true := by
          rw [beq_iff_eq]
          rintro rfl
          exact hnodup.1 (mem_keys_of_mem hrest)
        rw [if_neg hne]
        exact ih hnodup.2 hrest

/-! ### Looking up -/

/-- What is found under a key is an entry. -/
theorem mem_of_get? (h : entries.get? key = some value) : (key, value) ∈ entries := by
  obtain ⟨found, hfound, hkey⟩ := exists_mem_of_get? h
  exact eq_of_beq hkey ▸ hfound

/-- Nothing is found under a key that is not there. -/
theorem get?_eq_none_iff : entries.get? key = none ↔ key ∉ keys entries := by
  rw [← contains_iff, contains_eq_isSome, Option.not_isSome_iff_eq_none]

/-- A removed key is not found, and all else as before. -/
theorem get?_erase (entries : Entries κ α) (key other : κ) :
    (entries.erase key).get? other = if key == other then none else entries.get? other := by
  induction entries with
  | nil => simp [erase, get?]
  | cons head rest ih =>
      obtain ⟨k, v⟩ := head
      rw [erase] at ih
      rw [erase, List.filter_cons]
      by_cases hk : k == key
      · rw [if_neg (by simp [hk]), ih, get?, eq_of_beq hk]
        split <;> rfl
      · rw [if_pos (by simpa using hk), get?, get?, ih]
        by_cases hother : k == other
        · have hne : ¬ (key == other) = true := by
            rwa [eq_of_beq hother, BEq.comm] at hk
          rw [if_pos hother, if_neg hne, if_pos hother]
        · rw [if_neg hother, if_neg hother]

theorem mem_erase : entry ∈ entries.erase key ↔ entry ∈ entries ∧ entry.1 ≠ key := by
  simp [erase]

/-- Removing a key that is not there changes nothing. -/
theorem erase_eq_self (h : key ∉ keys entries) : entries.erase key = entries := by
  refine List.filter_eq_self.mpr fun entry hentry => ?_
  have hne : entry.1 ≠ key := fun heq => h (heq ▸ mem_keys_of_mem hentry)
  simpa using hne

/-! ### Mappings made of related entries -/

namespace Paired

variable {R : κ → α → β → Prop} {entries changes : Entries κ α} {others others' : Entries κ β}

/-- Assigning related values to one key keeps mappings paired. -/
theorem insert (h : Paired R entries others) {key : κ} {value : α} {other : β}
    (hvalue : R key value other) :
    Paired R (entries.insert key value) (others.insert key other) := by
  induction h with
  | nil => exact .cons ⟨rfl, hvalue⟩ .nil
  | @cons head head' rest rest' hhead hrest ih =>
      obtain ⟨k, v⟩ := head
      obtain ⟨k', v'⟩ := head'
      obtain ⟨rfl, hhead⟩ := hhead
      rw [Entries.insert, Entries.insert]
      by_cases hk : k == key
      · rw [if_pos hk, if_pos hk]
        obtain rfl := eq_of_beq hk
        exact .cons ⟨rfl, hvalue⟩ hrest
      · rw [if_neg hk, if_neg hk]
        exact .cons ⟨rfl, hhead⟩ ih

theorem update (h : Paired R entries others) (hchanges : Paired R changes others') :
    Paired R (entries.update changes) (others.update others') := by
  induction hchanges generalizing entries others with
  | nil => exact h
  | @cons head head' rest rest' hhead hrest ih =>
      obtain ⟨k, v⟩ := head
      obtain ⟨k', v'⟩ := head'
      obtain ⟨rfl, hhead⟩ := hhead
      rw [update_cons, update_cons]
      exact ih (h.insert hhead)

/-- Mappings made of paired entries are paired: of several entries with one key, the last one counts
in both. -/
theorem ofList (h : Paired R entries others) :
    Paired R (Entries.ofList entries) (Entries.ofList others) :=
  update .nil h

end Paired

end Entries

end PfaScript
