import Mathlib.Data.List.Sort
import PfaScript.Proofs.Marker

/-!
# Values whose objects have distinct keys

`Json.Keyed` says that no object of a value, at any depth, has two fields with one key. Values that
were read have this property, and tagging and assigning keep it. It is what makes the order of keys
a matter of layout: the fields of such a value can be sorted in one way only, so that sorting and
stripping can be done in either order (`Json.Keyed.strip_sortKeys`).
-/

namespace PfaScript

namespace Json

/-- No object of the value has two fields with one key. -/
inductive Keyed : Json → Prop where
  | null : Keyed .null
  | bool (b : Bool) : Keyed (.bool b)
  | int (n : Int) : Keyed (.int n)
  | float (x : Double) : Keyed (.float x)
  | str (s : String) : Keyed (.str s)
  | arr {items : List Json} : (∀ item ∈ items, Keyed item) → Keyed (.arr items)
  | obj {fields : Entries String Json} :
    fields.keys.Nodup → (∀ entry ∈ fields, Keyed entry.2) → Keyed (.obj fields)

theorem Keyed.items {items : List Json} (h : Keyed (.arr items)) : ∀ item ∈ items, Keyed item := by
  cases h with
  | arr hitems => exact hitems

theorem Keyed.nodup {fields : Entries String Json} (h : Keyed (.obj fields)) :
    fields.keys.Nodup := by
  cases h with
  | obj hnodup _ => exact hnodup

theorem Keyed.fields {fields : Entries String Json} (h : Keyed (.obj fields)) :
    ∀ entry ∈ fields, Keyed entry.2 := by
  cases h with
  | obj _ hfields => exact hfields

@[simp] theorem keyed_arr {items : List Json} : Keyed (.arr items) ↔ ∀ item ∈ items, Keyed item :=
  ⟨Keyed.items, .arr⟩

variable {v : Json} {fields : Entries String Json} {entries : List (String × Json)}

theorem keyed_obj_iff : Keyed (.obj fields) ↔ fields.keys.Nodup ∧ ∀ entry ∈ fields, Keyed entry.2 :=
  ⟨fun h => ⟨h.nodup, h.fields⟩, fun h => .obj h.1 h.2⟩

/-- The value of a field of a keyed object is keyed. -/
theorem Keyed.of_get? (h : Keyed (.obj fields)) {key : String} (hget : fields.get? key = some v) :
    Keyed v :=
  h.fields (key, v) (Entries.mem_of_get? hget)

/-! ### Building objects -/

theorem keyed_ofList (h : ∀ entry ∈ entries, Keyed entry.2) :
    Keyed (.obj (Entries.ofList entries)) :=
  .obj (Entries.nodup_keys_ofList entries) fun entry hentry =>
    h entry (Entries.mem_of_mem_ofList hentry)

theorem Keyed.insert (h : Keyed (.obj fields)) (key : String) (hv : Keyed v) :
    Keyed (.obj (fields.insert key v)) := by
  refine .obj (Entries.nodup_keys_insert h.nodup key v) ?_
  intro entry hentry
  rcases Entries.mem_of_mem_insert hentry with hold | rfl
  · exact h.fields entry hold
  · exact hv

/-- Whatever is tagged has distinct keys, since the entries are assigned one after the other. -/
theorem keyed_tagged (span : Option Span) {entries : Entries String Json}
    (h : ∀ entry ∈ entries, Keyed entry.2) : Keyed (tagged span entries) := by
  have hmarker : (marker span).keys.Nodup ∧ ∀ entry ∈ marker span, Keyed entry.2 := by
    cases span <;> simp [marker, Keyed.str]
  refine .obj (Entries.nodup_keys_update hmarker.1 entries) ?_
  intro entry hentry
  rcases Entries.mem_of_mem_update hentry with hold | hnew
  · exact hmarker.2 entry hold
  · exact h entry hnew

/-! ### Sorting -/

theorem sortItems_eq_map : (items : List Json) → sortItems items = items.map sortKeys
  | [] => by rw [sortItems, List.map_nil]
  | item :: rest => by rw [sortItems, sortItems_eq_map rest, List.map_cons]

theorem sortFields_eq_map : (fields : Entries String Json) →
    sortFields fields = fields.map fun entry => (entry.1, entry.2.sortKeys)
  | [] => by rw [sortFields, List.map_nil]
  | (key, value) :: rest => by rw [sortFields, sortFields_eq_map rest, List.map_cons]

theorem keys_sortFields (fields : Entries String Json) :
    Entries.keys (sortFields fields) = fields.keys := by
  rw [sortFields_eq_map, Entries.keys, Entries.keys, List.map_map]
  rfl

/-- The order in which `sortKeys` leaves the fields. -/
def KeysAscend (fields : Entries String Json) : Prop :=
  fields.Pairwise fun a b => a.1 ≤ b.1

theorem sortEntries_perm (fields : Entries String Json) :
    (sortEntries fields).Perm (sortFields fields) :=
  List.mergeSort_perm _ _

theorem nodup_keys_sortEntries : (Entries.keys (sortEntries fields)).Nodup ↔ fields.keys.Nodup := by
  rw [← keys_sortFields fields]
  exact ((sortEntries_perm fields).map Prod.fst).nodup_iff

/-- A sorted field was there, with a value that is sorted now. -/
theorem mem_sortEntries {entry : String × Json} (h : entry ∈ sortEntries fields) :
    ∃ inner ∈ fields, entry = (inner.1, inner.2.sortKeys) := by
  have hmem := (sortEntries_perm fields).subset h
  rw [sortFields_eq_map] at hmem
  obtain ⟨inner, hinner, rfl⟩ := List.mem_map.mp hmem
  exact ⟨inner, hinner, rfl⟩

theorem keysAscend_sortEntries (fields : Entries String Json) :
    KeysAscend (sortEntries fields) := by
  have hsorted : (sortEntries fields).Pairwise fun a b => decide (a.1 ≤ b.1) = true := by
    apply List.pairwise_mergeSort
    · intro a b c hab hbc
      exact decide_eq_true (String.le_trans (of_decide_eq_true hab) (of_decide_eq_true hbc))
    · intro a b
      simpa using String.le_total a.1 b.1
  exact hsorted.imp of_decide_eq_true

/-- Fields with distinct keys ascend in one order only. -/
theorem KeysAscend.eq_of_perm {others : Entries String Json} (h : KeysAscend fields)
    (hothers : KeysAscend others) (hperm : fields.Perm others) (hnodup : others.keys.Nodup) :
    fields = others := by
  refine hperm.eq_of_pairwise ?_ h hothers
  intro a b ha hb hab hba
  exact List.inj_on_of_nodup_map hnodup (hperm.subset ha) hb (String.le_antisymm hab hba)

theorem KeysAscend.stripFields (h : KeysAscend fields) : KeysAscend (stripFields fields) := by
  unfold KeysAscend at h ⊢
  rw [← List.pairwise_map (f := Prod.fst) (R := (· ≤ ·))] at h ⊢
  change (Entries.keys (Json.stripFields fields)).Pairwise (· ≤ ·)
  rw [keys_stripFields]
  exact h.filter _

theorem Keyed.sortKeys (h : Keyed v) : Keyed v.sortKeys := by
  induction h with
  | arr _ ih =>
      rw [Json.sortKeys, sortItems_eq_map]
      refine .arr ?_
      intro item hitem
      obtain ⟨inner, hinner, rfl⟩ := List.mem_map.mp hitem
      exact ih inner hinner
  | @obj fields hnodup _ ih =>
      rw [sortKeys_obj]
      refine .obj (nodup_keys_sortEntries.mpr hnodup) ?_
      intro entry hentry
      obtain ⟨inner, hinner, rfl⟩ := mem_sortEntries hentry
      exact ih inner hinner
  | _ => rw [Json.sortKeys]; constructor

/-- Sorting what is sorted changes nothing. -/
theorem Keyed.sortKeys_sortKeys (h : Keyed v) : v.sortKeys.sortKeys = v.sortKeys := by
  induction h with
  | arr _ ih =>
      rw [Json.sortKeys, sortItems_eq_map, Json.sortKeys, sortItems_eq_map, List.map_map]
      congr 1
      exact List.map_congr_left ih
  | @obj fields _ _ ih =>
      -- the values are sorted already, and then the fields are in order
      have hvalues : sortFields (sortEntries fields) = sortEntries fields := by
        rw [sortFields_eq_map]
        refine (List.map_congr_left ?_).trans (List.map_id _)
        intro entry hentry
        obtain ⟨inner, hinner, rfl⟩ := mem_sortEntries hentry
        exact congrArg (Prod.mk inner.1) (ih inner hinner)
      rw [sortKeys_obj, sortKeys_obj]
      congr 1
      unfold sortEntries at hvalues ⊢
      rw [hvalues]
      exact List.mergeSort_of_pairwise
        ((keysAscend_sortEntries fields).imp fun hle => decide_eq_true hle)
  | _ => rw [Json.sortKeys, Json.sortKeys]

/-! ### Stripping -/

/-- If sorting and stripping commute on the values, they commute on the fields. -/
theorem stripFields_sortFields
    (h : ∀ entry ∈ fields, entry.2.sortKeys.strip = entry.2.strip.sortKeys) :
    stripFields (sortFields fields) = sortFields (stripFields fields) := by
  induction fields with
  | nil => rw [sortFields, stripFields, sortFields]
  | cons entry rest ih =>
      obtain ⟨key, value⟩ := entry
      rw [List.forall_mem_cons] at h
      rw [sortFields, stripFields_cons, stripFields_cons, ih h.2]
      split
      · rfl
      · rw [sortFields, h.1]

theorem stripFields_stripFields (h : ∀ entry ∈ fields, entry.2.strip.strip = entry.2.strip) :
    stripFields (stripFields fields) = stripFields fields := by
  induction fields with
  | nil => rw [stripFields_nil, stripFields_nil]
  | cons entry rest ih =>
      obtain ⟨key, value⟩ := entry
      rw [List.forall_mem_cons] at h
      rw [stripFields_cons]
      by_cases hkey : key = markerKey
      · rw [if_pos hkey, ih h.2]
      · rw [if_neg hkey, stripFields_cons, if_neg hkey, h.1, ih h.2]

/-- Every field that is left was there, with a value that is stripped now. -/
theorem mem_stripFields {entry : String × Json} (h : entry ∈ stripFields fields) :
    ∃ inner ∈ fields, entry = (inner.1, inner.2.strip) := by
  induction fields with
  | nil =>
      rw [stripFields_nil] at h
      cases h
  | cons first rest ih =>
      have hrest : entry ∈ stripFields rest →
          ∃ inner ∈ first :: rest, entry = (inner.1, inner.2.strip) := by
        intro hmem
        obtain ⟨inner, hinner, heq⟩ := ih hmem
        exact ⟨inner, List.mem_cons_of_mem _ hinner, heq⟩
      rw [stripFields_cons] at h
      split at h
      · exact hrest h
      · rcases List.mem_cons.mp h with rfl | hmem
        · exact ⟨first, List.mem_cons_self, rfl⟩
        · exact hrest hmem

theorem Keyed.strip (h : Keyed v) : Keyed v.strip := by
  induction h with
  | arr _ ih =>
      rw [Json.strip, stripItems_eq_map]
      refine .arr ?_
      intro item hitem
      obtain ⟨inner, hinner, rfl⟩ := List.mem_map.mp hitem
      exact ih inner hinner
  | @obj fields hnodup _ ih =>
      rw [Json.strip]
      refine .obj ?_ ?_
      · rw [keys_stripFields]
        exact hnodup.filter _
      · intro entry hentry
        obtain ⟨inner, hinner, rfl⟩ := mem_stripFields hentry
        exact ih inner hinner
  | _ => rw [Json.strip]; constructor

/-- Stripping what is stripped changes nothing. -/
theorem Keyed.strip_strip (h : Keyed v) : v.strip.strip = v.strip := by
  induction h with
  | arr _ ih =>
      rw [Json.strip, stripItems_eq_map, Json.strip, stripItems_eq_map, List.map_map]
      congr 1
      exact List.map_congr_left ih
  | @obj fields _ _ ih =>
      rw [Json.strip, Json.strip]
      congr 1
      exact stripFields_stripFields ih
  | _ => rw [Json.strip, Json.strip]

/-- Sorting and stripping can be done in either order. -/
theorem Keyed.strip_sortKeys (h : Keyed v) : v.sortKeys.strip = v.strip.sortKeys := by
  induction h with
  | arr _ ih =>
      rw [Json.sortKeys, sortItems_eq_map, Json.strip, stripItems_eq_map, Json.strip,
        stripItems_eq_map, Json.sortKeys, sortItems_eq_map, List.map_map, List.map_map]
      congr 1
      exact List.map_congr_left ih
  | @obj fields hnodup _ ih =>
      rw [sortKeys_obj, Json.strip, Json.strip, sortKeys_obj]
      congr 1
      have hperm : (Json.stripFields (sortEntries fields)).Perm
          (sortEntries (Json.stripFields fields)) := by
        refine (stripFields_perm (sortEntries_perm fields)).trans ?_
        rw [stripFields_sortFields ih]
        exact (sortEntries_perm _).symm
      refine (keysAscend_sortEntries fields).stripFields.eq_of_perm (keysAscend_sortEntries _)
        hperm ?_
      rw [nodup_keys_sortEntries, keys_stripFields]
      exact hnodup.filter _
  | _ => simp only [Json.sortKeys, Json.strip]

end Json

end PfaScript
