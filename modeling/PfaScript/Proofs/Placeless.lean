import PfaScript.Proofs.Alike

/-!
# Reading without places

The place of a node is written in its `loc` entry. `Json.unplaced` takes these entries out of a
tree, at all node objects and only there. A tree is read as the tree without places is: with the
same fault, or with the same nodes but for their places, unless the reading stops at a line or
column that is infinite (`Load.node_unplaced`). So trees that differ in places only are read alike,
with infinite places as the one exception (`Load.places_irrelevant`).
-/

namespace PfaScript

/-! ### Trees without places -/

/-- The keys of an object's fields that hold no nodes: its tag, its place and, if it is a node of a
known construct, the fields that are kept as they are. -/
def Load.wordKeys (fields : Entries String Json) : List String :=
  "type" :: "loc" ::
    match fields.get? "type" with
    | some (.str tag) => (Construct.ofTag? tag).elim [] Construct.wordKeys
    | _ => []

namespace Json

mutual

/-- The tree without the places of its nodes. -/
def unplaced : Json → Json
  | .arr items => .arr (unplacedItems items)
  | .obj fields => .obj (unplacedFields (Load.wordKeys fields) fields)
  | .null => .null
  | .bool b => .bool b
  | .int n => .int n
  | .float x => .float x
  | .str s => .str s

/-- `unplaced` of every item. -/
def unplacedItems : List Json → List Json
  | [] => []
  | item :: rest => unplaced item :: unplacedItems rest

/-- The fields of a node object without its place, and without places below all but `words`. -/
def unplacedFields (words : List String) : List (String × Json) → List (String × Json)
  | [] => []
  | (key, value) :: rest =>
    if key = "loc" then unplacedFields words rest
    else (key, if key ∈ words then value else unplaced value) :: unplacedFields words rest

end

mutual

/-- No node has an infinite line or column. -/
def placesFinite : Json → Bool
  | .arr items => itemsPlacesFinite items
  | .obj fields =>
    decide (Span.ofLoc (Entries.get? fields "loc") ≠ .error .infinite) &&
      fieldsPlacesFinite (Load.wordKeys fields) fields
  | _ => true

/-- `placesFinite` of every item. -/
def itemsPlacesFinite : List Json → Bool
  | [] => true
  | item :: rest => placesFinite item && itemsPlacesFinite rest

/-- `placesFinite` of the values of all fields but `words`. -/
def fieldsPlacesFinite (words : List String) : List (String × Json) → Bool
  | [] => true
  | (key, value) :: rest =>
    (decide (key ∈ words) || placesFinite value) && fieldsPlacesFinite words rest

end

end Json

/-- The second tree is the first one with other places: the `loc` entries of some node objects, at
any depth, are changed, removed or added. -/
inductive Relocated : Json → Json → Prop
  | place {f g : Entries String Json} (h : f.erase "loc" = g.erase "loc") :
    Relocated (.obj f) (.obj g)
  | field {before after : Entries String Json} {key : String} {v w : Json}
    (hkey : key ∉ Load.wordKeys (before ++ (key, v) :: after)) (h : Relocated v w) :
    Relocated (.obj (before ++ (key, v) :: after)) (.obj (before ++ (key, w) :: after))
  | item {before after : List Json} {v w : Json} (h : Relocated v w) :
    Relocated (.arr (before ++ v :: after)) (.arr (before ++ w :: after))
  | refl (v : Json) : Relocated v v
  | symm {v w : Json} (h : Relocated v w) : Relocated w v
  | trans {u v w : Json} (h : Relocated u v) (h' : Relocated v w) : Relocated u w

namespace Json

theorem unplacedItems_eq_map (items : List Json) : unplacedItems items = items.map unplaced := by
  induction items with
  | nil => rw [unplacedItems, List.map_nil]
  | cons item rest ih => rw [unplacedItems, List.map_cons, ih]

theorem unplacedFields_append (words : List String) (fields others : Entries String Json) :
    unplacedFields words (fields ++ others) =
      unplacedFields words fields ++ unplacedFields words others := by
  induction fields with
  | nil => rw [unplacedFields, List.nil_append, List.nil_append]
  | cons entry rest ih =>
      obtain ⟨key, value⟩ := entry
      rw [List.cons_append, unplacedFields, unplacedFields, ih]
      split_ifs <;> rfl

/-- A place that is removed before is not missed. -/
theorem unplacedFields_erase (words : List String) (fields : Entries String Json) :
    unplacedFields words (fields.erase "loc") = unplacedFields words fields := by
  induction fields with
  | nil => rfl
  | cons entry rest ih =>
      obtain ⟨key, value⟩ := entry
      unfold Entries.erase at ih ⊢
      by_cases hkey : key = "loc"
      · rw [List.filter_cons_of_neg (by simpa using hkey), ih, unplacedFields, if_pos hkey]
      · rw [List.filter_cons_of_pos (by simpa using hkey), unplacedFields, unplacedFields, ih]

/-- What is found under a key once places are gone. -/
theorem get?_unplacedFields (words : List String) (fields : Entries String Json) (key : String) :
    Entries.get? (unplacedFields words fields) key =
      if key = "loc" then none
      else (fields.get? key).map fun value => if key ∈ words then value else value.unplaced := by
  induction fields with
  | nil => simp [unplacedFields, Entries.get?]
  | cons entry rest ih =>
      obtain ⟨k, value⟩ := entry
      rw [unplacedFields]
      by_cases hloc : k = "loc"
      · subst hloc
        rw [if_pos rfl, ih, Entries.get?]
        by_cases hkey : key = "loc"
        · rw [if_pos hkey, if_pos hkey]
        · rw [if_neg hkey, if_neg hkey, if_neg (by simpa using Ne.symm hkey)]
      · rw [if_neg hloc, Entries.get?, Entries.get?, ih]
        by_cases hk : k = key
        · subst hk
          simp [hloc]
        · simp [hk]

theorem placesFinite_of_mem_items {items : List Json} (h : itemsPlacesFinite items = true)
    {v : Json} (hv : v ∈ items) : v.placesFinite = true := by
  induction items with
  | nil => cases hv
  | cons item rest ih =>
      rw [itemsPlacesFinite, Bool.and_eq_true] at h
      rcases List.mem_cons.mp hv with rfl | hv
      · exact h.1
      · exact ih h.2 hv

theorem placesFinite_of_get? {words : List String} {fields : Entries String Json}
    (h : fieldsPlacesFinite words fields = true) {key : String} {v : Json} (hkey : key ∉ words)
    (hv : fields.get? key = some v) : v.placesFinite = true := by
  induction fields with
  | nil => cases hv
  | cons entry rest ih =>
      obtain ⟨k, value⟩ := entry
      rw [fieldsPlacesFinite, Bool.and_eq_true] at h
      rw [Entries.get?] at hv
      by_cases hk : k = key
      · subst hk
        simp only [beq_self_eq_true, if_true, Option.some.injEq] at hv
        subst hv
        simpa [hkey] using h.1
      · rw [if_neg (by simpa using hk)] at hv
        exact ih h.2 hv

theorem sizeOf_lt_of_get? {fields : Entries String Json} {key : String} {v : Json}
    (h : fields.get? key = some v) : sizeOf v < sizeOf (Json.obj fields) := by
  have hmem := List.sizeOf_lt_of_mem (Entries.mem_of_get? h)
  simp only [Prod.mk.sizeOf_spec, Json.obj.sizeOf_spec] at hmem ⊢
  omega

end Json

/-- Two trees with other places are the same without them. -/
theorem Relocated.unplaced_eq {v w : Json} (h : Relocated v w) : v.unplaced = w.unplaced := by
  induction h with
  | @place f g h =>
      have hget (key : String) (hkey : key ≠ "loc") : f.get? key = g.get? key := by
        have herase := congrArg (Entries.get? · key) h
        have hne : ¬ ("loc" == key) = true := by simpa using Ne.symm hkey
        simpa only [Entries.get?_erase, if_neg hne] using herase
      have hwords : Load.wordKeys f = Load.wordKeys g := by
        unfold Load.wordKeys
        rw [hget "type" (by decide)]
      rw [Json.unplaced, Json.unplaced, hwords, ← Json.unplacedFields_erase, h,
        Json.unplacedFields_erase]
  | @field before after key v w hkey _ ih =>
      have htype : key ≠ "type" := fun heq => hkey (heq ▸ List.mem_cons_self)
      have hwords : Load.wordKeys (before ++ (key, v) :: after) =
          Load.wordKeys (before ++ (key, w) :: after) := by
        unfold Load.wordKeys
        rw [Entries.get?_append, Entries.get?_append, Entries.get?, Entries.get?,
          if_neg (by simpa using htype), if_neg (by simpa using htype)]
      rw [Json.unplaced, Json.unplaced, ← hwords, Json.unplacedFields_append,
        Json.unplacedFields_append, Json.unplacedFields, Json.unplacedFields, if_neg hkey,
        if_neg hkey, ih]
  | item _ ih =>
      simp only [Json.unplaced, Json.unplacedItems_eq_map, List.map_append, List.map_cons, ih]
  | refl v => rfl
  | symm _ ih => exact ih.symm
  | trans _ _ ih ih' => exact ih.trans ih'

/-- Drops places and the payloads of unknown constructs, and keeps the written forms of literals. -/
def Relabelling.outline : Relabelling where
  span _ := none
  raw := id
  payload _ := []

open Node (relabel relabelHoles relabelOption)

namespace Load

open Spelling

/-- Two faults of the tree are the same if their causes are; an infinite place, which only a tree
that has one can have, stops the comparison. -/
def Faults.placed (v : Json) : Faults where
  Same e e' := ∃ cause, e = .malformed cause ∧ e' = .malformed cause
  Stops e := e = .infinitePosition ∧ v.placesFinite = false

theorem Faults.placed_same (v : Json) (cause : Malformed) :
    (Faults.placed v).Same (.malformed cause) (.malformed cause) :=
  ⟨cause, rfl, rfl⟩

/-- Places below a value are places of the value. -/
theorem Related.placed_mono {α β : Type} {f : α → β} {x y : Except LoadError α} {v w : Json}
    (h : Related (.placed w) f x y) (hfinite : v.placesFinite = true → w.placesFinite = true) :
    Related (.placed v) f x y := by
  refine h.mono (fun _ _ => id) fun e he => ⟨he.1, ?_⟩
  rw [← Bool.not_eq_true]
  exact fun hv => absurd (hfinite hv) (by rw [he.2]; exact Bool.false_ne_true)

/-- A value is read as it is without places, where a node stands. -/
def ReadsUnplaced (F : Faults) (v : Json) : Prop :=
  Related F (relabel .outline) (node v) (node v.unplaced)

/-! ### Fields -/

theorem isNull_unplaced (v : Json) : v.unplaced.isNull = v.isNull := by
  cases v <;> simp only [Json.unplaced, Json.isNull]

section fields

variable {root : Json} {field : Option Json}
  (h : ∀ v, field = some v → ReadsUnplaced (.placed root) v)

include h

theorem childOf_unplaced (tag key : String) :
    Related (.placed root) (relabel .outline) (childOf tag key field)
      (childOf tag key (field.map Json.unplaced)) := by
  cases field with
  | none => exact .error (Faults.placed_same root _)
  | some v =>
      rw [Option.map_some, childOf, childOf, isNull_unplaced]
      split
      · exact .error (Faults.placed_same root _)
      · exact h v rfl

theorem optionOf_unplaced :
    Related (.placed root) (relabelOption .outline) (optionOf field)
      (optionOf (field.map Json.unplaced)) := by
  cases field with
  | none => exact .ok rfl
  | some v =>
      rw [Option.map_some, optionOf, optionOf, isNull_unplaced]
      split
      · exact .ok rfl
      · exact (h v rfl).bind fun n n' hn => .ok (congrArg some hn)

end fields

/-- A field that holds nodes holds them without places. -/
theorem get?_of_notMem_wordKeys {fields : Entries String Json} {key : String}
    (hkey : key ∉ wordKeys fields) :
    Entries.get? (Json.unplacedFields (wordKeys fields) fields) key =
      (fields.get? key).map Json.unplaced := by
  have hloc : key ≠ "loc" := by
    rintro rfl
    exact hkey (by simp [wordKeys])
  simp only [Json.get?_unplacedFields, if_neg hloc, if_neg hkey]

/-- A field that holds no nodes stays as it is. -/
theorem get?_of_mem_wordKeys {fields : Entries String Json} {key : String}
    (hkey : key ∈ wordKeys fields) (hloc : key ≠ "loc") :
    Entries.get? (Json.unplacedFields (wordKeys fields) fields) key = fields.get? key := by
  simp only [Json.get?_unplacedFields, if_neg hloc, if_pos hkey, Option.map_id']

/-! ### Values below a node -/

theorem notMem_wordKeys_of_mem_partKeys {key : String} (hkey : key ∈ partKeys)
    (fields : Entries String Json) : key ∉ wordKeys fields := by
  have hall : ∀ c : Construct, ∀ k ∈ partKeys, k ∉ "type" :: "loc" :: c.wordKeys := by
    intro c
    cases c <;> decide
  unfold wordKeys
  split
  · next tag _ =>
      cases Construct.ofTag? tag with
      | none => exact hall .empty key hkey
      | some c => exact hall c key hkey
  · exact hall .empty key hkey

/-- Every value that is smaller than `v` is read as it is without places. -/
def ReadsBelow (v : Json) : Prop :=
  ∀ w, sizeOf w < sizeOf v → ReadsUnplaced (.placed w) w

/-- The value of a field that holds nodes is read as it is without places. -/
theorem ReadsBelow.field {fields : Entries String Json} (h : ReadsBelow (.obj fields))
    {key : String} (hkey : key ∉ wordKeys fields) :
    ∀ v, fields.get? key = some v → ReadsUnplaced (.placed (.obj fields)) v := by
  intro v hv
  refine (h v (Json.sizeOf_lt_of_get? hv)).placed_mono fun hfinite => ?_
  rw [Json.placesFinite, Bool.and_eq_true] at hfinite
  exact Json.placesFinite_of_get? hfinite.2 hkey hv

/-- An item of a list is read as it is without places, and so are its parts. -/
theorem ReadsBelow.item {root v w : Json} (h : ReadsBelow v) (hsize : sizeOf w < sizeOf v)
    (hroot : root.placesFinite = true → w.placesFinite = true) :
    ItemRelated (.placed root) .outline w w.unplaced where
  option := optionOf_unplaced (by rintro _ ⟨⟩; exact (h w hsize).placed_mono hroot)
  parts _ _ owner key hkey := by
    cases w with
    | obj fields =>
        have hbelow : ReadsBelow (.obj fields) := fun u hu => h u (hu.trans hsize)
        have hpart := notMem_wordKeys_of_mem_partKeys hkey fields
        rw [Json.unplaced, Json.field?, Json.field?, get?_of_notMem_wordKeys hpart]
        exact (childOf_unplaced (hbelow.field hpart) owner key).placed_mono hroot
    | _ => exact .error (Faults.placed_same root _)

section items

variable {fields : Entries String Json} (h : ReadsBelow (.obj fields)) {key : String}
  (hkey : key ∉ wordKeys fields)

include h hkey

theorem ReadsBelow.items {values : List Json} (hvalues : fields.get? key = some (.arr values)) :
    List.Forall₂ (ItemRelated (.placed (.obj fields)) .outline) values
      (Json.unplacedItems values) := by
  have hsize := Json.sizeOf_lt_of_get? hvalues
  rw [Json.arr.sizeOf_spec] at hsize
  rw [Json.unplacedItems_eq_map, List.forall₂_map_right_iff, List.forall₂_same]
  intro w hw
  have hlt := List.sizeOf_lt_of_mem hw
  refine h.item (by omega) fun hfinite => ?_
  rw [Json.placesFinite, Bool.and_eq_true] at hfinite
  have hall := Json.placesFinite_of_get? hfinite.2 hkey hvalues
  rw [Json.placesFinite] at hall
  exact Json.placesFinite_of_mem_items hall hw

theorem itemsOf_unplaced (tag : String) :
    Related (.placed (.obj fields)) (relabelHoles .outline) (itemsOf tag key (fields.get? key))
      (itemsOf tag key ((fields.get? key).map Json.unplaced)) := by
  cases hfield : fields.get? key with
  | none => exact .ok rfl
  | some v =>
      cases v with
      | arr values =>
          rw [Option.map_some, Json.unplaced]
          exact nodes_related (h.items hkey hfield)
      | _ =>
          simp only [Option.map_some, Json.unplaced, itemsOf]
          exact .error (Faults.placed_same _ _)

theorem parametersOf_unplaced (tag : String) {defaults defaults' : List (Option Node)}
    (hdefaults : relabelHoles .outline defaults = relabelHoles .outline defaults') :
    Related (.placed (.obj fields)) (relabelRead .outline)
      (parametersOf tag defaults (fields.get? key))
      (parametersOf tag defaults' ((fields.get? key).map Json.unplaced)) := by
  cases hfield : fields.get? key with
  | none => exact .ok rfl
  | some v =>
      cases v with
      | arr values =>
          have hitems := h.items hkey hfield
          rw [Option.map_some, Json.unplaced]
          apply (nodes_related hitems).bind_of_eq
          intro read read' hread hread' _
          exact attach_related hitems hdefaults hread hread'
      | _ =>
          simp only [Option.map_some, Json.unplaced, parametersOf]
          exact .error (Faults.placed_same _ _)

end items

/-! ### Nodes -/

theorem fieldsRelated_unplaced {fields : Entries String Json} (h : ReadsBelow (.obj fields))
    {c : Construct} (hwords : wordKeys fields = "type" :: "loc" :: c.wordKeys) (tag : String) :
    FieldsRelated (.placed (.obj fields)) .outline tag c fields
      (Json.unplacedFields (wordKeys fields) fields) := by
  have hsame : ∀ key ∈ c.wordKeys, key ≠ "loc" →
      fields.get? key = Entries.get? (Json.unplacedFields (wordKeys fields) fields) key := by
    intro key hkey hloc
    exact (get?_of_mem_wordKeys (by simp [hwords, hkey]) hloc).symm
  have hplain : ∀ key ∈ c.plainKeys, key ∈ c.wordKeys ∧ key ≠ "loc" := by
    cases c <;> decide
  constructor
  · intro key hkey
    rw [← hwords] at hkey
    rw [get?_of_notMem_wordKeys hkey]
    exact childOf_unplaced (h.field hkey) tag key
  · intro key hkey
    rw [← hwords] at hkey
    rw [get?_of_notMem_wordKeys hkey]
    exact optionOf_unplaced (h.field hkey)
  · intro key hkey
    rw [← hwords] at hkey
    rw [get?_of_notMem_wordKeys hkey]
    exact itemsOf_unplaced h hkey tag
  · intro key hkey defaults defaults' hdefaults
    rw [← hwords] at hkey
    rw [get?_of_notMem_wordKeys hkey]
    exact parametersOf_unplaced h hkey tag hdefaults
  · intro key hkey
    exact hsame key (hplain key hkey).1 (hplain key hkey).2
  · rintro rfl
    rw [hsame "raw" (by decide) (by decide)]

/-- Without places no place is infinite. -/
theorem spanField_unplaced (words : List String) (fields : Entries String Json) :
    spanField (Json.unplacedFields words fields) = .ok none := by
  rw [spanField, Json.get?_unplacedFields, if_pos rfl]
  rfl

/-- Whatever its place is, a node is made, unless the place is infinite. -/
theorem spanField_cases (fields : Entries String Json) :
    (∃ span, spanField fields = .ok span) ∨
      spanField fields = .error .infinitePosition ∧
        Json.placesFinite (.obj fields) = false := by
  unfold spanField
  cases hloc : Span.ofLoc (fields.get? "loc") with
  | ok span => exact .inl ⟨some span, rfl⟩
  | error absence =>
      cases absence with
      | unusable => exact .inl ⟨none, rfl⟩
      | infinite => exact .inr ⟨rfl, by simp [Json.placesFinite, hloc]⟩

theorem node_obj_unplaced {fields : Entries String Json} (h : ReadsBelow (.obj fields)) :
    ReadsUnplaced (.placed (.obj fields)) (.obj fields) := by
  have htype : Entries.get? (Json.unplacedFields (wordKeys fields) fields) "type" =
      fields.get? "type" := get?_of_mem_wordKeys List.mem_cons_self (by decide)
  unfold ReadsUnplaced
  rw [Json.unplaced]
  by_cases huntagged : ∀ tag, Tagged fields tag → tag.isEmpty = true
  · rw [node_untagged huntagged, node_untagged (by simpa only [Tagged, htype] using huntagged)]
    exact .error (Faults.placed_same _ _)
  simp only [not_forall, Bool.not_eq_true] at huntagged
  obtain ⟨tag, htag, hne⟩ := huntagged
  have htag' : Tagged (Json.unplacedFields (wordKeys fields) fields) tag := htype.trans htag
  cases hc : Construct.ofTag? tag with
  | none =>
      rw [node_unknown htag hne hc, node_unknown htag' hne hc, spanField_unplaced]
      rcases spanField_cases fields with ⟨span, hspan⟩ | ⟨hspan, hinfinite⟩
      · rw [hspan]
        exact .ok rfl
      · rw [hspan]
        exact .stop ⟨rfl, hinfinite⟩
  | some c =>
      have hwords : wordKeys fields = "type" :: "loc" :: c.wordKeys := by
        unfold wordKeys
        rw [htag]
        simp only [hc, Option.elim_some]
      rw [node_known htag hc, node_known htag' hc, spanField_unplaced]
      apply (build_related (Faults.placed_same _) (fieldsRelated_unplaced h hwords tag)).bind_of_eq
      intro make make' hmake _ hsame
      rcases spanField_cases fields with ⟨span, hspan⟩ | ⟨hspan, hinfinite⟩
      · rw [hspan]
        refine .ok ?_
        calc relabel .outline (make span)
            = relabel .outline (make none) := relabel_make hmake rfl
          _ = relabel .outline (make' none) := congrFun hsame none
      · rw [hspan]
        exact .stop ⟨rfl, hinfinite⟩

/-- **A tree is read as it is without places**, unless a place is infinite. -/
theorem node_unplaced (v : Json) : ReadsUnplaced (.placed v) v := by
  have hbelow : ReadsBelow v := fun w _ => node_unplaced w
  cases v with
  | obj fields => exact node_obj_unplaced hbelow
  | _ =>
      simp only [ReadsUnplaced, Json.unplaced, node]
      exact .error (Faults.placed_same _ _)
termination_by sizeOf v

/-- A reading that stops at an infinite place has met one. -/
theorem placesFinite_of_infinitePosition {v : Json} (h : Node.load v = .error .infinitePosition) :
    v.placesFinite = false := by
  have hread := node_unplaced v
  unfold ReadsUnplaced at hread
  rw [show node v = .error .infinitePosition from h] at hread
  generalize node v.unplaced = other at hread
  cases hread with
  | stop hstop => exact hstop.2
  | error hsame =>
      obtain ⟨cause, hcause, -⟩ := hsame
      cases hcause

/-- **Places do not affect loading.** Two trees that differ in places only fail with the same fault,
or give nodes that differ in places and payloads only. An unusable place is no fault; the one
exception is a node whose line or column is infinite. -/
theorem places_irrelevant {p q : Json} (h : Relocated p q) :
    (∃ cause, Node.load p = .error (.malformed cause) ∧
      Node.load q = .error (.malformed cause)) ∨
    (∃ tree other, Node.load p = .ok tree ∧ Node.load q = .ok other ∧
      tree.relabel .outline = other.relabel .outline) ∨
    (Node.load p = .error .infinitePosition ∧ p.placesFinite = false) ∨
    (Node.load q = .error .infinitePosition ∧ q.placesFinite = false) := by
  have hread := node_unplaced p
  have hother := node_unplaced q
  unfold ReadsUnplaced at hread hother
  rw [← h.unplaced_eq] at hother
  unfold Node.load
  -- Both are compared with the tree without places, which the two trees share.
  generalize node p = x, node q = y, node p.unplaced = z at hread hother ⊢
  cases hread with
  | stop hstop => exact .inr (.inr (.inl ⟨congrArg _ hstop.1, hstop.2⟩))
  | ok hsame =>
      cases hother with
      | ok hsame' => exact .inr (.inl ⟨_, _, rfl, rfl, hsame.trans hsame'.symm⟩)
      | stop hstop => exact .inr (.inr (.inr ⟨congrArg _ hstop.1, hstop.2⟩))
  | error hsame =>
      cases hother with
      | error hsame' =>
          obtain ⟨cause, rfl, rfl⟩ := hsame
          obtain ⟨cause', rfl, heq⟩ := hsame'
          cases heq
          exact .inl ⟨cause, rfl, rfl⟩
      | stop hstop => exact .inr (.inr (.inr ⟨congrArg _ hstop.1, hstop.2⟩))

/-- The statement `x;` with one place for both of its nodes. -/
def statementAt (place : Json) : Json :=
  .obj [("type", .str "ExpressionStatement"),
    ("expression", .obj [("type", .str "Identifier"), ("name", .str "x"), ("loc", place)]),
    ("loc", place)]

/-- The place of a line. -/
def lineAt (line : Json) : Json :=
  .obj [("start", .obj [("line", line)]), ("end", .obj [("line", line)])]

theorem relocated_statementAt (place other : Json) :
    Relocated (statementAt place) (statementAt other) := by
  have hidentifier : Relocated
      (.obj [("type", .str "Identifier"), ("name", .str "x"), ("loc", place)])
      (.obj [("type", .str "Identifier"), ("name", .str "x"), ("loc", other)]) := .place rfl
  have hkey : "expression" ∉ ["type", "loc"] := by decide
  have hfield := @Relocated.field [("type", .str "ExpressionStatement")] [("loc", place)]
    "expression" _ _ hkey hidentifier
  exact hfield.trans (.place rfl)

/-- A line that is no number is an unusable place, and the statement is read without one. -/
theorem places_irrelevant_unusable :
    ∃ tree other, Node.load (statementAt (lineAt (.int 3))) = .ok tree ∧
      Node.load (statementAt (lineAt (.str "three"))) = .ok other ∧
      tree.relabel .outline = other.relabel .outline := by
  rcases places_irrelevant (relocated_statementAt (lineAt (.int 3)) (lineAt (.str "three"))) with
    ⟨cause, hfault, -⟩ | hread | ⟨hinfinite, -⟩ | ⟨hinfinite, -⟩
  · cases hfault
  · exact hread
  · cases hinfinite
  · cases hinfinite

/-- A line that is infinite is no unusable place: the statement is not read at all. -/
theorem infinite_place_fails :
    Relocated (statementAt (lineAt (.float (.infinite false)))) (statementAt .null) ∧
      Node.load (statementAt (lineAt (.float (.infinite false)))) = .error .infinitePosition ∧
      ∃ tree, Node.load (statementAt .null) = .ok tree := by
  refine ⟨relocated_statementAt _ _, ?_, ?_⟩
  · rfl
  · exact ⟨_, rfl⟩

end Load

end PfaScript
