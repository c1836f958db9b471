import PfaScript.Proofs.Equation
import PfaScript.Proofs.Marker

/-!
# Outcomes that are alike

Two outcomes of the compiler are compared wholly, or up to places and markers (`Likeness`). Either
way the values that are put together of values that are alike are alike, and so are the outcomes of
steps that follow each other (`Likeness.Agree.bind`); what is shown of the compiler from these laws
alone is shown of both comparisons.
-/

namespace PfaScript

/-- How closely outcomes are compared. -/
inductive Likeness where
  /-- Places and markers count. -/
  | exact
  /-- Neither places nor markers count. -/
  | stripped

namespace Likeness

/-- Two places are alike. -/
def Place : Likeness → Option Span → Option Span → Prop
  | exact, span, span' => span = span'
  | stripped, _, _ => True

/-- Two values are alike. -/
def Same : Likeness → Json → Json → Prop
  | exact, v, w => v = w
  | stripped, v, w => Json.Same v w

/-- Two lists of values are alike. -/
def Items : Likeness → List Json → List Json → Prop
  | exact, items, others => items = others
  | stripped, items, others => Json.SameItems items others

/-- Two lists of entries are alike. -/
def Fields : Likeness → Entries String Json → Entries String Json → Prop
  | exact, fields, others => fields = others
  | stripped, fields, others => Json.SameFields fields others

variable {L : Likeness} {span span' : Option Span} {v w : Json} {items others : List Json}
  {fields fields' : Entries String Json}

/-! ### Values -/

@[simp] theorem Place.refl (span : Option Span) : L.Place span span := by
  cases L with
  | exact => rfl
  | stripped => trivial

theorem Same.refl (v : Json) : L.Same v v := by
  cases L <;> rfl

theorem Items.nil : L.Items [] [] := by
  cases L <;> rfl

theorem Items.cons (h : L.Same v w) (hs : L.Items items others) :
    L.Items (v :: items) (w :: others) := by
  cases L with
  | exact => exact congrArg₂ List.cons h hs
  | stripped => exact Json.SameItems.cons h hs

theorem Items.append {items' others' : List Json} (h : L.Items items others)
    (h' : L.Items items' others') : L.Items (items ++ items') (others ++ others') := by
  cases L with
  | exact => exact congrArg₂ _ h h'
  | stripped => exact Json.SameItems.append h h'

theorem Items.arr (h : L.Items items others) : L.Same (.arr items) (.arr others) := by
  cases L with
  | exact => exact congrArg _ h
  | stripped => exact Json.SameItems.arr h

theorem Fields.nil : L.Fields [] [] := by
  cases L <;> rfl

theorem Fields.cons (key : String) (h : L.Same v w) (hs : L.Fields fields fields') :
    L.Fields ((key, v) :: fields) ((key, w) :: fields') := by
  cases L with
  | exact => exact congrArg₂ (fun v fields => (key, v) :: fields) h hs
  | stripped => exact Json.SameFields.cons key h hs

theorem Fields.append {others others' : Entries String Json} (h : L.Fields fields fields')
    (hs : L.Fields others others') : L.Fields (fields ++ others) (fields' ++ others') := by
  cases L with
  | exact => exact congrArg₂ _ h hs
  | stripped => exact Json.SameFields.append h hs

theorem Fields.insert (h : L.Fields fields fields') (key : String) (hv : L.Same v w) :
    L.Fields (fields.insert key v) (fields'.insert key w) := by
  cases L with
  | exact => exact congrArg₂ (fun fields v => Entries.insert fields key v) h hv
  | stripped => exact Json.SameFields.insert h key hv

theorem Fields.ofList (h : L.Fields fields fields') :
    L.Fields (Entries.ofList fields) (Entries.ofList fields') := by
  cases L with
  | exact => exact congrArg _ h
  | stripped => exact Json.SameFields.ofList h

theorem Fields.obj (h : L.Fields fields fields') : L.Same (.obj fields) (.obj fields') := by
  cases L with
  | exact => exact congrArg _ h
  | stripped => exact Json.SameFields.obj h

theorem Fields.taggedEntries (h : L.Fields fields fields') (hplace : L.Place span span') :
    L.Fields (taggedEntries span fields) (taggedEntries span' fields') := by
  cases L with
  | exact => exact congrArg₂ _ hplace h
  | stripped => exact Json.SameFields.taggedEntries h span span'

theorem Fields.tagged (h : L.Fields fields fields') (hplace : L.Place span span') :
    L.Same (tagged span fields) (tagged span' fields') :=
  (h.taggedEntries hplace).obj

theorem Fields.contains_eq (h : L.Fields fields fields') {key : String} (hkey : key ≠ markerKey) :
    fields.contains key = fields'.contains key := by
  cases L with
  | exact => exact congrArg (Entries.contains · key) h
  | stripped => exact Json.SameFields.contains_eq h hkey

/-- Being null does not depend on what is left out of the comparison. -/
theorem Same.isNull_eq (h : L.Same v w) : v.isNull = w.isNull := by
  cases L with
  | exact => exact congrArg _ h
  | stripped => exact Json.Same.isNull_eq h

/-- Whether a term defines a function does not depend on markers. -/
theorem Same.isFunctionDefinition_eq (h : L.Same v w) :
    v.isFunctionDefinition = w.isFunctionDefinition := by
  cases L with
  | exact => exact congrArg _ h
  | stripped =>
      have hstrip : v.strip = w.strip := h
      cases v <;> cases w <;> simp [Json.isFunctionDefinition] at hstrip ⊢
      rename_i fields others
      have hfields : Json.SameFields fields others := hstrip
      rw [hfields.contains_eq (by decide), hfields.contains_eq (by decide)]

theorem Same.isFlag_eq (h : L.Same v w) : Slot.isFlag v = Slot.isFlag w := by
  cases L with
  | exact => exact congrArg _ h
  | stripped =>
      have hstrip : v.strip = w.strip := h
      cases v <;> cases w <;> simp_all [Slot.isFlag]

/-! ### Outcomes -/

/-- Both outcomes are faults with the same cause at places that are alike, or both are results, and
these are related. -/
inductive Agree {α β : Type} (L : Likeness) (R : α → β → Prop) :
    Except Fault α → Except Fault β → Prop
  | ok {a : α} {b : β} (h : R a b) : Agree L R (.ok a) (.ok b)
  | error {f g : Fault} (hcause : f.cause = g.cause) (hplace : L.Place f.span g.span) :
    Agree L R (.error f) (.error g)

namespace Agree

variable {α β γ δ : Type} {R : α → β → Prop} {S : γ → δ → Prop}

/-- Sequences agree if their first steps agree and related results lead to second steps that
agree. -/
theorem bind {x : Except Fault α} {y : Except Fault β} {f : α → Except Fault γ}
    {g : β → Except Fault δ} (h : L.Agree R x y) (hf : ∀ a b, R a b → L.Agree S (f a) (g b)) :
    L.Agree S (x >>= f) (y >>= g) := by
  cases h with
  | ok hab => exact hf _ _ hab
  | error hcause hplace => exact .error hcause hplace

/-- Choices agree if both sides make the same one. -/
theorem ite {c : Prop} [Decidable c] {x x' : Except Fault α} {y y' : Except Fault β}
    (h : c → L.Agree R x y) (h' : ¬ c → L.Agree R x' y') :
    L.Agree R (if c then x else x') (if c then y else y') := by
  by_cases hc : c
  · rw [if_pos hc, if_pos hc]
    exact h hc
  · rw [if_neg hc, if_neg hc]
    exact h' hc

/-- What agrees in any way agrees up to places. -/
theorem agree {x : Except Fault α} {y : Except Fault β} (h : L.Agree R x y) :
    PfaScript.Agree R x y := by
  cases h with
  | ok hab => exact .ok hab
  | error hcause _ => exact .error hcause

/-- Outcomes that agree with places and markers are equal. -/
theorem eq {x y : Except Fault α} (h : exact.Agree Eq x y) : x = y := by
  cases h with
  | ok hab => exact congrArg _ hab
  | @error f g hcause hplace =>
      obtain ⟨cause, span⟩ := f
      obtain ⟨cause', span'⟩ := g
      obtain rfl : cause = cause' := hcause
      obtain rfl : span = span' := hplace
      rfl

end Agree

end Likeness

end PfaScript
