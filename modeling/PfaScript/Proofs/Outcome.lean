import PfaScript.Compile.Fault
import Mathlib.Tactic.Common

/-!
# Outcomes

How the outcome of a computation that may stop at a fault is taken apart. A sequence of two steps
gives a result exactly if both do (`bind_eq_ok_iff`), and what it yields is what the second step
yields (`Yields.bind`). Two computations agree up to places (`Agree`) if both stop with the same
cause or both give results, and these are related; sequences of steps that agree agree as a whole
(`Agree.bind`).
-/

namespace PfaScript

section

variable {ε α β : Type}

@[simp] theorem pure_eq_ok (a : α) : (pure a : Except ε α) = .ok a := rfl

@[simp] theorem ok_bind (a : α) (f : α → Except ε β) : (Except.ok a >>= f) = f a := rfl

@[simp] theorem error_bind (e : ε) (f : α → Except ε β) :
    ((Except.error e : Except ε α) >>= f) = .error e := rfl

/-- A sequence of two steps gives a result exactly if both steps do. -/
theorem bind_eq_ok_iff {x : Except ε α} {f : α → Except ε β} {b : β} :
    (x >>= f) = .ok b ↔ ∃ a, x = .ok a ∧ f a = .ok b := by
  cases x with
  | ok a => simp
  | error e => simp

/-- A sequence of two steps fails exactly if one of them does. -/
theorem bind_eq_error_iff {x : Except ε α} {f : α → Except ε β} {e : ε} :
    (x >>= f) = .error e ↔ x = .error e ∨ ∃ a, x = .ok a ∧ f a = .error e := by
  cases x with
  | ok a => simp
  | error e => simp

/-- Another wording of failures does not change when there is a result. -/
theorem mapError_eq_ok_iff {δ : Type} {x : Except ε α} {f : ε → δ} {a : α} :
    x.mapError f = .ok a ↔ x = .ok a := by
  cases x <;> simp [Except.mapError]

/-- A run over items fails exactly if it fails at one of them, and not before. -/
theorem foldlM_eq_error_iff {f : β → α → Except ε β} {items : List α} {b : β} {e : ε} :
    items.foldlM f b = .error e ↔
      ∃ before item after last, items = before ++ item :: after ∧
        before.foldlM f b = .ok last ∧ f last item = .error e := by
  induction items generalizing b with
  | nil => simp
  | cons item rest ih =>
      rw [List.foldlM_cons, bind_eq_error_iff]
      constructor
      · rintro (hitem | ⟨next, hitem, hrest⟩)
        · exact ⟨[], item, rest, b, rfl, rfl, hitem⟩
        · obtain ⟨before, failing, after, last, rfl, hbefore, hfails⟩ := ih.mp hrest
          refine ⟨item :: before, failing, after, last, rfl, ?_, hfails⟩
          rw [List.foldlM_cons, hitem]
          exact hbefore
      · rintro ⟨before, failing, after, last, hitems, hbefore, hfails⟩
        cases before with
        | nil =>
            cases hitems
            cases hbefore
            exact .inl hfails
        | cons first front =>
            cases hitems
            rw [List.foldlM_cons] at hbefore
            obtain ⟨next, hfirst, hfront⟩ := bind_eq_ok_iff.mp hbefore
            exact .inr ⟨next, hfirst, ih.mpr ⟨front, failing, after, last, rfl, hfront, hfails⟩⟩

end

section yields

variable {α β : Type} {P : α → Prop} {Q : β → Prop} {x : Except Fault α} {f : α → Except Fault β}

/-- If the outcome is a result, it has the property. -/
def Yields (P : α → Prop) (x : Except Fault α) : Prop := ∀ a, x = .ok a → P a

namespace Yields

theorem ok {a : α} (h : P a) : Yields P (.ok a) := by
  rintro _ ⟨⟩
  exact h

theorem error {fault : Fault} : Yields P (.error fault) := by
  rintro _ ⟨⟩

theorem bind (hx : Yields P x) (hf : ∀ a, P a → Yields Q (f a)) : Yields Q (x >>= f) := by
  intro b hb
  obtain ⟨a, ha, hb⟩ := bind_eq_ok_iff.mp hb
  exact hf a (hx a ha) b hb

/-- What the first step gives may not matter. -/
theorem seq (hf : ∀ a, Yields Q (f a)) : Yields Q (x >>= f) :=
  bind (P := fun _ => True) (fun _ _ => trivial) fun a _ => hf a

end Yields

end yields

/-- Two outcomes agree up to places: both are faults with the same cause, or both are results, and
these are related. -/
inductive Agree {α β : Type} (R : α → β → Prop) : Except Fault α → Except Fault β → Prop
  | ok {a : α} {b : β} (h : R a b) : Agree R (.ok a) (.ok b)
  | error {f g : Fault} (h : f.cause = g.cause) : Agree R (.error f) (.error g)

namespace Agree

variable {α β γ δ : Type} {R : α → β → Prop} {S : γ → δ → Prop}

/-- Sequences agree if their first steps agree and related results lead to second steps that
agree. -/
theorem bind {x : Except Fault α} {y : Except Fault β} {f : α → Except Fault γ}
    {g : β → Except Fault δ} (h : Agree R x y) (hf : ∀ a b, R a b → Agree S (f a) (g b)) :
    Agree S (x >>= f) (y >>= g) := by
  cases h with
  | ok hab => exact hf _ _ hab
  | error hc => exact .error hc

/-- If two outcomes agree with a third one, they agree with each other. -/
theorem trans_symm {T : α → γ → Prop} {U : β → γ → Prop} {x : Except Fault α}
    {y : Except Fault β} {z : Except Fault γ} (hx : Agree T x z) (hy : Agree U y z)
    (hR : ∀ a b c, T a c → U b c → R a b) : Agree R x y := by
  cases hx with
  | ok hac =>
      cases hy with
      | ok hbc => exact .ok (hR _ _ _ hac hbc)
  | error hf =>
      cases hy with
      | error hg => exact .error (hf.trans hg.symm)

end Agree

end PfaScript
