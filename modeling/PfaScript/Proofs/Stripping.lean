import Mathlib
import PfaScript.Proofs.Marker

/-!
# Stripping as a projection

`Json.hasMarkers` and `Json.strip` go through a value independently of each other, but what the one
finds is what the other removes. **Theorem** (`Json.strip_projection`): a stripped value has no
markers, and the values without markers are exactly those that stripping leaves as they are. All
else stays where it was: a path that does not go through the key of markers leads to the stripped
value of what it led to before, lists keep their length and objects the order of their other keys.

Both sides are compared with the list of all markers, `Json.markers`. The last part needs one fact
about a single step (`Json.child?_strip`), which is carried along the path.
-/

namespace PfaScript

namespace Json

/-! ### What is found and what is removed -/

mutual

/-- Markers are found exactly if there are any. -/
theorem hasMarkers_eq_false_iff (v : Json) : v.hasMarkers = false ↔ v.markers = [] := by
  cases v with
  | arr items => rw [hasMarkers, markers, itemsHaveMarkers_eq_false_iff]
  | obj fields => rw [hasMarkers, markers, fieldsHaveMarkers_eq_false_iff]
  | _ => simp only [hasMarkers, markers]

theorem itemsHaveMarkers_eq_false_iff (items : List Json) :
    itemsHaveMarkers items = false ↔ markersItems items = [] := by
  match items with
  | [] => simp only [itemsHaveMarkers, markersItems]
  | item :: rest =>
      rw [itemsHaveMarkers, markersItems, Bool.or_eq_false_iff, List.append_eq_nil_iff,
        hasMarkers_eq_false_iff item, itemsHaveMarkers_eq_false_iff rest]

theorem fieldsHaveMarkers_eq_false_iff (fields : List (String × Json)) :
    fieldsHaveMarkers fields = false ↔ markersFields fields = [] := by
  match fields with
  | [] => simp only [fieldsHaveMarkers, markersFields]
  | (key, value) :: rest =>
      have hkey : decide (key = markerKey) = false ↔
          (if key = markerKey then [value] else []) = [] := by
        by_cases h : key = markerKey <;> simp [h]
      rw [fieldsHaveMarkers, markersFields, Bool.or_eq_false_iff, Bool.or_eq_false_iff,
        List.append_eq_nil_iff, List.append_eq_nil_iff, hkey, hasMarkers_eq_false_iff value,
        fieldsHaveMarkers_eq_false_iff rest]

end

mutual

/-- Stripping leaves no markers. -/
theorem markers_strip (v : Json) : v.strip.markers = [] := by
  cases v with
  | arr items => rw [strip, markers, markersItems_stripItems items]
  | obj fields => rw [strip, markers, markersFields_stripFields fields]
  | _ => simp only [strip, markers]

theorem markersItems_stripItems (items : List Json) : markersItems (stripItems items) = [] := by
  match items with
  | [] => rw [stripItems, markersItems]
  | item :: rest =>
      rw [stripItems, markersItems, markers_strip item, markersItems_stripItems rest,
        List.append_nil]

theorem markersFields_stripFields (fields : List (String × Json)) :
    markersFields (stripFields fields) = [] := by
  match fields with
  | [] => rw [stripFields, markersFields]
  | (key, value) :: rest =>
      rw [stripFields]
      by_cases h : key = markerKey
      · rw [if_pos h, markersFields_stripFields rest]
      · rw [if_neg h, markersFields, if_neg h, markers_strip value,
          markersFields_stripFields rest, List.append_nil, List.append_nil]

end

/-- The values that stripping leaves as they are are those without markers. -/
theorem strip_eq_self_iff (v : Json) : v.strip = v ↔ v.markers = [] := by
  constructor
  · intro h
    rw [← h]
    exact markers_strip v
  · exact strip_eq_self

/-! ### Paths into values -/

/-- A step into a value: to a field of an object or to an item of a list. -/
inductive Step where
  | key (key : String)
  | index (index : Nat)
deriving DecidableEq, Repr

/-- What a step leads to. -/
def child? : Json → Step → Option Json
  | .obj fields, .key key => Entries.get? fields key
  | .arr items, .index index => items[index]?
  | _, _ => none

/-- What a path leads to. -/
def follow? (v : Json) : List Step → Option Json
  | [] => some v
  | step :: rest => (v.child? step).bind (follow? · rest)

theorem get?_stripFields {key : String} (h : key ≠ markerKey) (fields : Entries String Json) :
    Entries.get? (stripFields fields) key = (fields.get? key).map strip := by
  induction fields with
  | nil => rw [stripFields_nil, Entries.get?, Option.map_none]
  | cons field rest ih =>
      obtain ⟨name, value⟩ := field
      rw [stripFields_cons, Entries.get?]
      by_cases hname : name = key
      · rw [if_neg (hname ▸ h), Entries.get?, if_pos (beq_iff_eq.mpr hname),
          if_pos (beq_iff_eq.mpr hname), Option.map_some]
      · have hne : ¬ (name == key) = true := by simpa using hname
        rw [if_neg hne, ← ih]
        split_ifs
        · rfl
        · rw [Entries.get?, if_neg hne]

/-- A step that is not to a marker leads to the stripped value of what it led to. -/
theorem child?_strip {step : Step} (h : step ≠ .key markerKey) (v : Json) :
    v.strip.child? step = (v.child? step).map strip := by
  cases step with
  | key key =>
      have hkey : key ≠ markerKey := fun heq => h (heq ▸ rfl)
      cases v with
      | obj fields => exact get?_stripFields hkey fields
      | _ => rfl
  | index index =>
      cases v with
      | arr items =>
          rw [strip, stripItems_eq_map]
          exact List.getElem?_map
      | _ => rfl

theorem follow?_strip {path : List Step} (h : .key markerKey ∉ path) (v : Json) :
    v.strip.follow? path = (v.follow? path).map strip := by
  induction path generalizing v with
  | nil => rfl
  | cons step rest ih =>
      rw [List.mem_cons, not_or] at h
      rw [follow?, follow?, child?_strip (Ne.symm h.1)]
      cases v.child? step with
      | none => rfl
      | some child => exact ih h.2 child

/-- **Stripping is a projection onto the values without markers.** What it leaves of a value is
found where it was before. -/
theorem strip_projection (v : Json) :
    v.strip.hasMarkers = false ∧ (v.strip = v ↔ v.hasMarkers = false) ∧
      v.strip.strip = v.strip ∧
      ∀ path : List Step, .key markerKey ∉ path →
        v.strip.follow? path = (v.follow? path).map strip ∧
        (∀ items, v.follow? path = some (.arr items) →
          ∃ kept, v.strip.follow? path = some (.arr kept) ∧ kept.length = items.length) ∧
        ∀ fields, v.follow? path = some (.obj fields) →
          ∃ kept, v.strip.follow? path = some (.obj kept) ∧
            Entries.keys kept = (Entries.keys fields).filter (· ≠ markerKey) := by
  have hstripped : v.strip.markers = [] := markers_strip v
  refine ⟨(hasMarkers_eq_false_iff _).mpr hstripped, ?_, strip_eq_self hstripped, ?_⟩
  · rw [strip_eq_self_iff, hasMarkers_eq_false_iff]
  intro path hpath
  have hfollow := follow?_strip hpath v
  refine ⟨hfollow, fun items hitems => ⟨items.map strip, ?_, List.length_map strip⟩,
    fun fields hfields => ⟨stripFields fields, ?_, keys_stripFields fields⟩⟩
  · rw [hfollow, hitems, Option.map_some, strip, stripItems_eq_map]
  · rw [hfollow, hfields, Option.map_some, strip]

/-- A list of an object with a marker, one of whose fields is such an object again. -/
def markedTwice : Json :=
  .arr [.null, .obj [("b", .int 1), ("@", .str "JS lines 1 to 2"),
    ("a", .obj [("@", .obj [("c", .null)]), ("c", .arr [.bool true])])]]

theorem strip_projection_markedTwice :
    markedTwice.hasMarkers = true ∧
      markedTwice.strip.follow? [.index 1, .key "a"] = some (.obj [("c", .arr [.bool true])]) ∧
      ∃ kept, markedTwice.strip.follow? [.index 1] = some (.obj kept) ∧
        Entries.keys kept = ["b", "a"] := by
  obtain ⟨-, -, -, hpaths⟩ := strip_projection markedTwice
  refine ⟨rfl, (hpaths [.index 1, .key "a"] (by decide)).1, ?_⟩
  exact (hpaths [.index 1] (by decide)).2.2 _ rfl

end Json

end PfaScript
