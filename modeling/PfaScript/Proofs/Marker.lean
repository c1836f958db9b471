import PfaScript.Compile.Marker
import PfaScript.Proofs.Entries

/-!
# Laws of location markers

Stripping commutes with every way in which objects are built: with appending, with assigning
(`stripFields_update`) and with tagging, which leaves nothing behind
(`stripFields_taggedEntries`). Two values are the `Same` up to markers if they are equal when
stripped.

`Json.markers` lists the values that stand under the key of markers at any depth, and `MarkersIn`
says that all of them are texts of a given kind. A value that has none is left as it is by stripping
(`strip_eq_self`).
-/

namespace PfaScript

namespace Json

/-! ### Stripping -/

attribute [simp] strip

@[simp] theorem stripItems_eq_map : (items : List Json) → stripItems items = items.map strip
  | [] => by rw [stripItems, List.map_nil]
  | item :: rest => by rw [stripItems, stripItems_eq_map rest, List.map_cons]

@[simp] theorem stripFields_nil : stripFields [] = [] := by rw [stripFields]

theorem stripFields_cons (key : String) (value : Json) (rest : List (String × Json)) :
    stripFields ((key, value) :: rest) =
      if key = markerKey then stripFields rest else (key, strip value) :: stripFields rest := by
  rw [stripFields]

@[simp] theorem stripFields_cons_marker (value : Json) (rest : List (String × Json)) :
    stripFields ((markerKey, value) :: rest) = stripFields rest := by
  rw [stripFields_cons, if_pos rfl]

theorem stripFields_append : (fields others : List (String × Json)) →
    stripFields (fields ++ others) = stripFields fields ++ stripFields others
  | [], _ => by simp
  | (key, value) :: rest, others => by
      rw [List.cons_append, stripFields_cons, stripFields_cons, stripFields_append rest others]
      split_ifs <;> rfl

/-- The same fields in another order are the same without markers. -/
theorem stripFields_perm {fields others : Entries String Json} (h : fields.Perm others) :
    (stripFields fields).Perm (stripFields others) := by
  induction h with
  | nil => exact .refl _
  | cons head _ ih =>
      rw [stripFields_cons, stripFields_cons]
      split
      · exact ih
      · exact ih.cons _
  | swap head next rest =>
      rw [stripFields_cons, stripFields_cons, stripFields_cons, stripFields_cons]
      split <;> split
      · exact .refl _
      · exact .refl _
      · exact .refl _
      · exact .swap _ _ _
  | trans _ _ ih ih' => exact ih.trans ih'

/-- Stripping keeps every key but that of markers. -/
theorem keys_stripFields : (fields : List (String × Json)) →
    Entries.keys (stripFields fields) = (Entries.keys fields).filter (· ≠ markerKey)
  | [] => by simp
  | (key, value) :: rest => by
      rw [stripFields_cons]
      by_cases h : key = markerKey
      · simp [h, keys_stripFields rest]
      · simp [h, keys_stripFields rest]

/-- A key other than that of markers is there before stripping exactly if it is there after. -/
theorem contains_stripFields {key : String} (h : key ≠ markerKey) (fields : Entries String Json) :
    Entries.contains (stripFields fields) key = fields.contains key := by
  rw [Bool.eq_iff_iff, Entries.contains_iff, Entries.contains_iff, keys_stripFields]
  simp [h]

/-- Stripping after an assignment is assigning the stripped value, unless a marker is assigned. -/
theorem stripFields_insert (fields : Entries String Json) (key : String) (value : Json) :
    stripFields (fields.insert key value) =
      if key = markerKey then stripFields fields
      else Entries.insert (stripFields fields) key value.strip := by
  induction fields with
  | nil =>
      rw [Entries.insert, stripFields_cons]
      split_ifs <;> simp [Entries.insert]
  | cons head rest ih =>
      obtain ⟨k, v⟩ := head
      rw [Entries.insert]
      by_cases hk : k = key
      · subst hk
        rw [if_pos (beq_self_eq_true k), stripFields_cons, stripFields_cons]
        split_ifs with hm
        · rfl
        · rw [Entries.insert, if_pos (beq_self_eq_true k)]
      · have hne : ¬ (k == key) = true := by simpa using hk
        rw [if_neg hne, stripFields_cons, stripFields_cons, ih]
        split_ifs with hm hkey
        · rfl
        · rfl
        · rfl
        · rw [Entries.insert, if_neg hne]

/-- Stripping an updated mapping is updating the stripped one with the stripped changes. -/
theorem stripFields_update (fields changes : Entries String Json) :
    stripFields (fields.update changes) =
      Entries.update (stripFields fields) (stripFields changes) := by
  induction changes generalizing fields with
  | nil => simp
  | cons head rest ih =>
      obtain ⟨key, value⟩ := head
      rw [Entries.update_cons, ih, stripFields_insert, stripFields_cons]
      split_ifs <;> rfl

theorem stripFields_ofList (fields : List (String × Json)) :
    stripFields (Entries.ofList fields) = Entries.ofList (stripFields fields) := by
  rw [Entries.ofList, stripFields_update, stripFields_nil, Entries.ofList]

@[simp] theorem stripFields_marker (span : Option Span) : stripFields (marker span) = [] := by
  cases span <;> simp [marker]

/-- **Stripping forgets where an object comes from.** -/
theorem stripFields_taggedEntries (span : Option Span) (fields : Entries String Json) :
    stripFields (taggedEntries span fields) = Entries.ofList (stripFields fields) := by
  rw [taggedEntries, stripFields_update, stripFields_marker, Entries.ofList]

/-! ### Values that are the same up to markers -/

/-- Two values are the same up to markers. -/
def Same (v w : Json) : Prop := v.strip = w.strip

/-- Two lists of values are the same up to markers. -/
def SameItems (items others : List Json) : Prop := items.map strip = others.map strip

/-- Two lists of entries are the same up to markers. -/
def SameFields (fields others : Entries String Json) : Prop :=
  stripFields fields = stripFields others

@[simp] theorem SameItems.nil : SameItems [] [] := rfl

theorem SameItems.cons {v w : Json} {items others : List Json} (h : Same v w)
    (hs : SameItems items others) : SameItems (v :: items) (w :: others) := by
  unfold SameItems
  rw [List.map_cons, List.map_cons, h, hs]

theorem SameItems.append {items others items' others' : List Json} (h : SameItems items others)
    (h' : SameItems items' others') : SameItems (items ++ items') (others ++ others') := by
  unfold SameItems
  rw [List.map_append, List.map_append, h, h']

theorem SameItems.arr {items others : List Json} (h : SameItems items others) :
    Same (.arr items) (.arr others) := by
  unfold Same
  rw [strip, strip, stripItems_eq_map, stripItems_eq_map, h]

@[simp] theorem SameFields.nil : SameFields [] [] := rfl

variable {v w : Json} {fields others : Entries String Json}

theorem SameFields.cons (key : String) (h : Same v w) (hs : SameFields fields others) :
    SameFields ((key, v) :: fields) ((key, w) :: others) := by
  unfold SameFields
  rw [stripFields_cons, stripFields_cons, h, hs]

theorem SameFields.append {fields' others' : Entries String Json} (h : SameFields fields others)
    (h' : SameFields fields' others') : SameFields (fields ++ fields') (others ++ others') := by
  unfold SameFields
  rw [stripFields_append, stripFields_append, h, h']

theorem SameFields.insert (h : SameFields fields others) (key : String) (hv : Same v w) :
    SameFields (fields.insert key v) (others.insert key w) := by
  unfold SameFields
  rw [stripFields_insert, stripFields_insert, h, hv]

theorem SameFields.ofList (h : SameFields fields others) :
    SameFields (Entries.ofList fields) (Entries.ofList others) := by
  unfold SameFields
  rw [stripFields_ofList, stripFields_ofList, h]

theorem SameFields.obj (h : SameFields fields others) : Same (.obj fields) (.obj others) := by
  unfold Same
  rw [strip, strip, h]

/-- Tagging with any two places keeps entries the same up to markers. -/
theorem SameFields.taggedEntries (h : SameFields fields others) (span span' : Option Span) :
    SameFields (taggedEntries span fields) (taggedEntries span' others) := by
  unfold SameFields
  rw [stripFields_taggedEntries, stripFields_taggedEntries, h]

theorem SameFields.tagged (h : SameFields fields others) (span span' : Option Span) :
    Same (tagged span fields) (tagged span' others) :=
  (h.taggedEntries span span').obj

theorem SameFields.contains_eq (h : SameFields fields others) {key : String}
    (hkey : key ≠ markerKey) : fields.contains key = others.contains key := by
  rw [← contains_stripFields hkey fields, ← contains_stripFields hkey others, h]

/-- Being null does not depend on markers. -/
theorem Same.isNull_eq (h : Same v w) : v.isNull = w.isNull := by
  unfold Same at h
  cases v <;> cases w <;> simp_all [isNull]

/-! ### Which markers a value has -/

mutual

/-- The values under the key of markers, at any depth. -/
def markers : Json → List Json
  | .arr items => markersItems items
  | .obj fields => markersFields fields
  | _ => []

/-- `markers` of every item. -/
def markersItems : List Json → List Json
  | [] => []
  | item :: rest => markers item ++ markersItems rest

/-- The markers among the fields and in their values. -/
def markersFields : List (String × Json) → List Json
  | [] => []
  | (key, value) :: rest =>
    (if key = markerKey then [value] else []) ++ markers value ++ markersFields rest

end

mutual

/-- A value without markers is left as it is. -/
theorem strip_eq_self {v : Json} (h : v.markers = []) : v.strip = v := by
  cases v with
  | arr items =>
      rw [markers] at h
      rw [strip, stripItems_eq_self h]
  | obj fields =>
      rw [markers] at h
      rw [strip, stripFields_eq_self h]
  | _ => rw [strip]

theorem stripItems_eq_self {items : List Json} (h : markersItems items = []) :
    stripItems items = items := by
  match items with
  | [] => rw [stripItems]
  | item :: rest =>
      rw [markersItems, List.append_eq_nil_iff] at h
      rw [stripItems, strip_eq_self h.1, stripItems_eq_self h.2]

theorem stripFields_eq_self {fields : List (String × Json)} (h : markersFields fields = []) :
    stripFields fields = fields := by
  match fields with
  | [] => rw [stripFields]
  | (key, value) :: rest =>
      rw [markersFields, List.append_eq_nil_iff, List.append_eq_nil_iff] at h
      by_cases hkey : key = markerKey
      · simp [hkey] at h
      · rw [stripFields, if_neg hkey, strip_eq_self h.1.2, stripFields_eq_self h.2]

end

/-- Every marker of the value is a text that `M` allows. -/
def MarkersIn (M : String → Prop) (v : Json) : Prop :=
  ∀ w ∈ v.markers, ∃ text, w = .str text ∧ M text

section

variable {M : String → Prop}

theorem markersIn_arr {items : List Json} :
    MarkersIn M (.arr items) ↔ ∀ v ∈ items, MarkersIn M v := by
  induction items with
  | nil => simp [MarkersIn, markers, markersItems]
  | cons item rest ih =>
      simp only [MarkersIn, markers, markersItems, List.forall_mem_append] at ih ⊢
      rw [ih, List.forall_mem_cons]

theorem markersIn_obj {fields : List (String × Json)} :
    MarkersIn M (.obj fields) ↔
      ∀ field ∈ fields, MarkersIn M field.2 ∧
        (field.1 = markerKey → ∃ text, field.2 = .str text ∧ M text) := by
  induction fields with
  | nil => simp [MarkersIn, markers, markersFields]
  | cons field rest ih =>
      obtain ⟨key, value⟩ := field
      simp only [MarkersIn, markers, markersFields, List.forall_mem_append] at ih ⊢
      rw [ih, List.forall_mem_cons]
      by_cases hkey : key = markerKey
      · simp [hkey, and_comm]
      · simp [hkey]

/-- If no text is allowed, there are no markers. -/
theorem markers_eq_nil_of_markersIn {v : Json} (h : MarkersIn (fun _ => False) v) :
    v.markers = [] := by
  refine List.eq_nil_iff_forall_not_mem.mpr fun w hw => ?_
  obtain ⟨text, -, hfalse⟩ := h w hw
  exact hfalse

end

end Json

end PfaScript
