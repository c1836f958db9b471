import PfaScript.Proofs.Rereading

/-!
# The order of keys in written texts

`Json.Reordered` says that two values differ in the order of keys at most, and `Json.Ordered` that
the keys of every object ascend. A value with distinct keys is sorted into the one value in
ascending order that differs from it in nothing else (`Json.Keyed.reordered_sortKeys`,
`Json.Keyed.ordered_sortKeys`), and all its reorderings are sorted into that same value
(`Json.Reordered.sortKeys_eq`). So the text of a value without doubles gives the value back, and a
sorted text depends on nothing but the value (`Json.read?_page_exact`). A text there is unless the
indent or an integer is too large.
-/

namespace PfaScript

namespace Json

/-- Two values that differ in the order of keys at most, at every depth. -/
inductive Reordered : Json → Json → Prop
  | same (v : Json) : Reordered v v
  | arr {items others : List Json} (hlength : items.length = others.length)
      (hitems : ∀ (n : Nat) v w, items[n]? = some v → others[n]? = some w → Reordered v w) :
      Reordered (.arr items) (.arr others)
  | obj {fields others : Entries String Json} (hkeys : fields.keys.Perm others.keys)
      (hfields : ∀ key v w, fields.get? key = some v → others.get? key = some w → Reordered v w) :
      Reordered (.obj fields) (.obj others)

/-- The keys of every object of the value ascend in the order of code points. -/
inductive Ordered : Json → Prop
  | null : Ordered .null
  | bool (b : Bool) : Ordered (.bool b)
  | int (n : Int) : Ordered (.int n)
  | float (x : Double) : Ordered (.float x)
  | str (s : String) : Ordered (.str s)
  | arr {items : List Json} (hitems : ∀ item ∈ items, Ordered item) : Ordered (.arr items)
  | obj {fields : Entries String Json} (hkeys : fields.keys.Pairwise (· < ·))
      (hfields : ∀ entry ∈ fields, Ordered entry.2) : Ordered (.obj fields)

theorem keys_sortEntries_perm (fields : Entries String Json) :
    fields.keys.Perm (Entries.keys (sortEntries fields)) := by
  rw [← keys_sortFields fields]
  exact ((sortEntries_perm fields).map Prod.fst).symm

/-- Keys that ascend and are distinct ascend strictly. -/
theorem keys_sortEntries_lt {fields : Entries String Json} (h : fields.keys.Nodup) :
    (Entries.keys (sortEntries fields)).Pairwise (· < ·) := by
  have hle : (Entries.keys (sortEntries fields)).Pairwise (· ≤ ·) :=
    List.pairwise_map.mpr (keysAscend_sortEntries fields)
  have hne : (Entries.keys (sortEntries fields)).Pairwise (· ≠ ·) := nodup_keys_sortEntries.mpr h
  refine (hle.and hne).imp fun hab => ?_
  by_contra hlt
  exact hab.2 (String.le_antisymm hab.1 (String.not_lt.mp hlt))

/-- Sorting puts all keys in ascending order. -/
theorem Keyed.ordered_sortKeys {v : Json} (h : Keyed v) : Ordered v.sortKeys := by
  induction h with
  | arr _ ih =>
      rw [Json.sortKeys, sortItems_eq_map]
      refine .arr fun item hitem => ?_
      obtain ⟨inner, hinner, rfl⟩ := List.mem_map.mp hitem
      exact ih inner hinner
  | obj hnodup _ ih =>
      rw [sortKeys_obj]
      refine .obj (keys_sortEntries_lt hnodup) fun entry hentry => ?_
      obtain ⟨inner, hinner, rfl⟩ := mem_sortEntries hentry
      exact ih inner hinner
  | _ => rw [Json.sortKeys]; constructor

/-- Sorting changes nothing but the order of keys. -/
theorem Keyed.reordered_sortKeys {v : Json} (h : Keyed v) : Reordered v v.sortKeys := by
  induction h with
  | @arr items _ ih =>
      rw [Json.sortKeys, sortItems_eq_map]
      refine .arr (List.length_map _).symm fun n v w hv hw => ?_
      rw [List.getElem?_map, hv] at hw
      cases hw
      exact ih v (List.mem_of_getElem? hv)
  | @obj fields hnodup _ ih =>
      rw [sortKeys_obj]
      refine .obj (keys_sortEntries_perm fields) fun key v w hv hw => ?_
      obtain ⟨inner, hinner, heq⟩ := mem_sortEntries (Entries.mem_of_get? hw)
      cases heq
      rw [Entries.get?_of_mem hnodup hinner] at hv
      cases hv
      exact ih inner hinner
  | _ => rw [Json.sortKeys]; exact .same _

/-- Values that differ in the order of keys at most are sorted into the same value. -/
theorem Reordered.sortKeys_eq {v w : Json} (h : Reordered v w) (hv : Keyed v) (hw : Keyed w) :
    v.sortKeys = w.sortKeys := by
  induction h with
  | same v => rfl
  | @arr items others hlength hitems ih =>
      rw [Json.sortKeys, Json.sortKeys, sortItems_eq_map, sortItems_eq_map]
      congr 1
      refine List.ext_getElem (by simpa using hlength) fun n hn hn' => ?_
      rw [List.getElem_map, List.getElem_map]
      exact ih n _ _ (List.getElem?_eq_getElem _) (List.getElem?_eq_getElem _)
        (hv.items _ (List.getElem_mem _)) (hw.items _ (List.getElem_mem _))
  | @obj fields others hkeys hfields ih =>
      rw [sortKeys_obj, sortKeys_obj]
      congr 1
      -- Each sorted field of one is a sorted field of the other, and there are equally many.
      have hsubset : sortFields fields ⊆ sortFields others := by
        intro entry hentry
        rw [sortFields_eq_map] at hentry ⊢
        obtain ⟨⟨key, value⟩, hmem, rfl⟩ := List.mem_map.mp hentry
        obtain ⟨⟨_, other⟩, hother, rfl⟩ :=
          List.mem_map.mp (hkeys.subset (Entries.mem_keys_of_mem hmem))
        refine List.mem_map.mpr ⟨_, hother, ?_⟩
        rw [ih _ _ _ (Entries.get?_of_mem hv.nodup hmem) (Entries.get?_of_mem hw.nodup hother)
          (hv.fields _ hmem) (hw.fields _ hother)]
      have hnodup : (Entries.keys (sortFields fields)).Nodup := by
        rw [keys_sortFields]
        exact hv.nodup
      have hlength : (sortFields others).length ≤ (sortFields fields).length := by
        simpa [Entries.keys, sortFields_eq_map] using hkeys.length_eq.ge
      have hperm := (List.subperm_of_subset hnodup.of_map hsubset).perm_of_length_le hlength
      exact (keysAscend_sortEntries fields).eq_of_perm (keysAscend_sortEntries others)
        ((sortEntries_perm fields).trans (hperm.trans (sortEntries_perm others).symm))
        (nodup_keys_sortEntries.mpr hw.nodup)

/-- **A JSON text loses nothing.** Let a value have no doubles. If the indent is none or fits into a
machine word, or the value is a single text, and if no integer has more than 4300 digits, then the
value has a text, which is read as that value with its keys in their order; a sorted text is read as
that value with all keys in ascending order. In all other cases the indent or an integer is refused.
Values that differ in the order of keys at most have the same sorted text, or none. A document is
written so. -/
theorem read?_page_exact {v : Json} (h : Keyed v) (hdoubles : ∀ x, .float x ∉ v.atoms)
    (indent : Option Int) :
    let fits := v.isText = true ∨ ∀ n ∈ indent, -2 ^ 63 ≤ n ∧ n < 2 ^ 63
    let short := ∀ n, .int n ∈ v.atoms → Integer.digitCount n ≤ 4300
    (fits → short →
      (∃ text, v.page { indent, sortKeys := false } = .ok text ∧ read? text = .ok v) ∧
      ∃ text sorted, v.page { indent, sortKeys := true } = .ok text ∧ read? text = .ok sorted ∧
        Reordered v sorted ∧ Ordered sorted) ∧
    (fits → ¬short → ∀ sortKeys, v.page { indent, sortKeys } = .error .longInteger) ∧
    (¬fits → ∀ sortKeys, v.page { indent, sortKeys } = .error .wideIndent) ∧
    (∀ w, Keyed w → Reordered v w →
      w.page { indent, sortKeys := true } = v.page { indent, sortKeys := true }) ∧
    ∀ fields, v = .obj fields → ∀ sortKeys,
      Document.renderNamed "json" { indent, sortKeys } fields =
        (v.page { indent, sortKeys }).mapError .write := by
  intro fits short
  have hback : v.DoublesReadBack := fun x hx => absurd hx (hdoubles x)
  have hfits (sortKeys : Bool) :
      (Style.indentFits ⟨indent, sortKeys⟩ || v.isText) = true ↔ fits := by
    rw [Bool.or_eq_true, or_comm]
    simp [Style.indentFits, fits, Option.all_eq_true]
  have hshort : v.hasLong = false ↔ short := by
    rw [hasLong_eq_false_iff]
    exact ⟨fun hatoms n hn => of_decide_eq_false (hatoms _ hn) |> Nat.le_of_not_lt,
      fun hall => by
        intro a ha
        cases a with
        | int n => exact decide_eq_false (Nat.not_lt.mpr (hall n ha))
        | _ => rfl⟩
  refine ⟨fun hyes hall => ?_, fun hyes hnot sortKeys => ?_, fun hno sortKeys => ?_,
    fun w hw hreordered => ?_, ?_⟩
  · have hpage (sortKeys : Bool) : ∃ text, v.page { indent, sortKeys } = .ok text := by
      rw [page, (hfits sortKeys).mpr hyes, hshort.mpr hall]
      exact ⟨_, rfl⟩
    obtain ⟨text, htext⟩ := hpage false
    obtain ⟨sorted, hsorted⟩ := hpage true
    exact ⟨⟨text, htext, read?_page h hback htext⟩, sorted, _, hsorted,
      read?_page h hback hsorted, h.reordered_sortKeys, h.ordered_sortKeys⟩
  · rw [page, (hfits sortKeys).mpr hyes, Bool.eq_true_of_not_eq_false (mt hshort.mp hnot)]
    rfl
  · rw [page, Bool.eq_false_iff.mpr (mt (hfits sortKeys).mp hno)]
    rfl
  · exact hw.page_eq_of_arrange h (hreordered.sortKeys_eq h hw).symm
  · rintro fields rfl sortKeys
    rfl

theorem read?_page_exact_fields :
    let v := obj [("b", .int 1), ("a", .arr [.str "é", .null])]
    let w := obj [("a", .arr [.str "é", .null]), ("b", .int 1)]
    (∃ text, v.page { indent := none, sortKeys := false } = .ok text ∧ read? text = .ok v) ∧
    (∃ text sorted, v.page { indent := none, sortKeys := true } = .ok text ∧
      read? text = .ok sorted ∧ Reordered v sorted ∧ Ordered sorted) ∧
    w.page { indent := none, sortKeys := true } = v.page { indent := none, sortKeys := true } ∧
    Document.renderNamed "json" { indent := none, sortKeys := true }
        [("b", .int 1), ("a", .arr [.str "é", .null])] =
      (v.page { indent := none, sortKeys := true }).mapError .write := by
  intro v w
  have hinner : Keyed (.arr [.str "é", .null]) := by simp [Keyed.str, Keyed.null]
  have hv : Keyed v := keyed_obj_iff.mpr ⟨by decide, by simp [hinner, Keyed.int]⟩
  have hw : Keyed w := keyed_obj_iff.mpr ⟨by decide, by simp [hinner, Keyed.int]⟩
  have hreordered : Reordered v w := by
    refine .obj (List.Perm.swap _ _ _) fun key value other hvalue hother => ?_
    have hmem := (List.Perm.swap _ _ _).subset (Entries.mem_of_get? hvalue)
    rw [Entries.get?_of_mem hw.nodup hmem] at hother
    cases hother
    exact .same _
  have hatoms : v.atoms = [.int 1, .str "é", .null] := by simp [v, atoms, atomsFields, atomsItems]
  obtain ⟨hread, -, -, hpage, hdocument⟩ :=
    read?_page_exact hv (by simp [hatoms]) none
  obtain ⟨hplain, hsorted⟩ := hread (.inr (by simp)) (by
    intro n hn
    rw [hatoms] at hn
    obtain rfl : n = 1 := by simpa using hn
    decide)
  exact ⟨hplain, hsorted, hpage w hw hreordered, hdocument _ rfl true⟩

/-- An indent that does not fit leaves a document without a text, even an empty one. -/
theorem wide_indent_refused :
    Keyed (.obj []) ∧ (∀ x, .float x ∉ (obj []).atoms) ∧
      Document.renderNamed "json" { indent := some (2 ^ 63) } [] = .error (.write .wideIndent) :=
  ⟨keyed_obj_iff.mpr ⟨by decide, by simp⟩, by simp [atoms, atomsFields], by decide⟩

end Json

end PfaScript
