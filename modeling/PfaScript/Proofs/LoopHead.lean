import Mathlib
import PfaScript.Proofs.Collecting
import PfaScript.Proofs.Compound

/-!
# The head of a `for` loop

The variables of a `for` loop are declared and its step assigns, but the loop has rules of its own
for what can be a step, and it collects the changes one by one. **Theorem**
(`Node.loop_head_as_outside`): where the step is an expression too, both give the same entries in
the same order, and the variables are those of the declaration alone. Plain assignments, separated
by commas, are a step whenever they are an expression.

The two ways agree on a single step (`Node.term_of_isStep`) and on a list of plain assignments
(`Node.assignments_eq_steps`), fault by fault, so they agree on every step that can stand alone
(`Node.term_of_standsAlone`).
-/

namespace PfaScript

namespace Node

/-- Whether a node assigns to a variable with `=`. -/
def isPlainAssignment : Node → Bool
  | .assignment _ "=" (.identifier ..) _ => true
  | _ => false

/-- Whether a step of a loop is an expression of its own: a single step, or plain assignments. -/
def standsAlone : Node → Bool
  | .sequence _ items => items.all isPlainAssignment
  | node => node.isStep

/-! ### Plain assignments -/

theorem eq_of_isPlainAssignment {node : Node} (h : node.isPlainAssignment = true) :
    ∃ span place name right, node = .assignment span "=" (.identifier place name) right := by
  unfold isPlainAssignment at h
  split at h
  · exact ⟨_, _, _, _, rfl⟩
  · cases h

theorem isStep_of_isPlainAssignment {node : Node} (h : node.isPlainAssignment = true) :
    node.isStep = true := by
  obtain ⟨span, place, name, right, rfl⟩ := eq_of_isPlainAssignment h
  rfl

/-- Plain assignments give the same changes as steps of a loop, and fail as these do. -/
theorem assignments_eq_steps {items : List Node}
    (h : ∀ item ∈ items, item.isPlainAssignment = true) : assignments items = steps items := by
  induction items with
  | nil => simp only [assignments, steps]
  | cons item rest ih =>
      obtain ⟨hitem, hrest⟩ := List.forall_mem_cons.mp h
      obtain ⟨span, place, name, right, rfl⟩ := eq_of_isPlainAssignment hitem
      have hplain : ¬ ("=" : String) ≠ "=" := not_not.mpr rfl
      simp only [assignments, steps, stepChange, if_neg hplain, assigned_plain, ih hrest]
      cases term right with
      | error fault => rfl
      | ok value => rfl

/-- Comma-separated expressions compile only if all of them are plain assignments. -/
theorem isPlainAssignment_of_assignments_ok {items : List Node} {bound : List (String × Json)}
    (h : assignments items = .ok bound) : ∀ item ∈ items, item.isPlainAssignment = true := by
  induction items generalizing bound with
  | nil => simp
  | cons item rest ih =>
      obtain ⟨span, place, name, right, value, others, rfl, -, hothers, -⟩ := assignments_cons_ok h
      exact List.forall_mem_cons.mpr ⟨rfl, ih hothers⟩

/-! ### Steps as expressions -/

/-- The term of a single step sets the variable that the step changes. -/
theorem term_of_isStep {node : Node} (h : node.isStep = true) :
    term node = (do
      let change ← stepChange node
      return tagged node.span [("set", .obj [change])]) := by
  cases node with
  | assignment span operator left right =>
      cases left with
      | identifier place name =>
          rw [term_assignment_identifier h, stepChange]
          cases term right with
          | error fault => rfl
          | ok value =>
              rw [ok_bind, ok_bind]
              cases assigned span operator (.str name) value with
              | error fault => rfl
              | ok stored => rfl
      | _ => cases h
  | update span operator argument leading =>
      cases argument with
      | identifier place name =>
          obtain ⟨function, hfunction⟩ := Option.isSome_iff_exists.mp h
          simp only [term, stepChange, updated, hfunction]
          rfl
      | _ => cases h
  | _ => cases h

/-- Outside of a loop, a step that can stand alone sets what it changes in the loop. -/
theorem term_of_standsAlone {node : Node} (h : node.standsAlone = true) :
    term node = (do
      let changes ← steps (stepParts (some node))
      return tagged node.span [("set", .obj (Entries.ofList changes))]) := by
  have honly (hstep : node.isStep = true) : term node = (do
      let changes ← steps [node]
      return tagged node.span [("set", .obj (Entries.ofList changes))]) := by
    rw [term_of_isStep hstep, steps, steps]
    cases stepChange node with
    | error fault => rfl
    | ok change => rfl
  cases node with
  | sequence span items =>
      have hitems := List.all_eq_true.mp h
      rw [term, assignments_eq_steps hitems]
      rfl
  | _ => exact honly h

/-- A step of a loop that compiles as an expression can stand alone. -/
theorem standsAlone_of_term_ok {node : Node} {w : Json}
    (hparts : ∀ part ∈ stepParts (some node), part.isStep = true) (h : term node = .ok w) :
    node.standsAlone = true := by
  cases node with
  | sequence span items =>
      obtain ⟨bound, hbound, -⟩ := sequence_ok h
      exact List.all_eq_true.mpr (isPlainAssignment_of_assignments_ok hbound)
  | _ => exact hparts _ (List.mem_singleton.mpr rfl)

/-! ### Loops -/

/-- The parts of a loop other than its step compile, and the first one declares variables. -/
structure LoopParts (init test : Option Node) (body : Node) : Prop where
  init : ∃ place declarators kind w, init = some (.declaration place declarators kind) ∧
    term (.declaration place declarators kind) = .ok w
  test (condition : Node) (h : test = some condition) : ∃ w, term condition = .ok w
  body : ∃ items, statementBody body = .ok items

theorem loopTest_ok_of_forall {test : Option Node}
    (h : ∀ condition, test = some condition → ∃ w, term condition = .ok w) :
    ∃ w, loopTest test = .ok w := by
  cases test with
  | none => exact ⟨.bool true, rfl⟩
  | some condition => exact h condition rfl

/-- A loop compiles if its parts do, and its step is made of steps that give changes. -/
theorem forLoop_ok_of_parts {span : Option Span} {init test step : Option Node} {body : Node}
    {changes : List (String × Json)} (hparts : LoopParts init test body)
    (hne : stepParts step ≠ []) (hsteps : ∀ part ∈ stepParts step, part.isStep = true)
    (hchanges : steps (stepParts step) = .ok changes) :
    ∃ v, statement (.forLoop span init test step body) = .ok v := by
  obtain ⟨place, declarators, kind, w, rfl, hinit⟩ := hparts.init
  obtain ⟨bound, hbound, -⟩ := declaration_ok hinit
  obtain ⟨condition, hcondition⟩ := loopTest_ok_of_forall hparts.test
  obtain ⟨items, hitems⟩ := hparts.body
  have haccepted : ¬ ((stepParts step).isEmpty || !(stepParts step).all isStep) = true := by
    simpa [hne] using hsteps
  rw [statement_forLoop, hbound, ok_bind, if_neg haccepted, hchanges, ok_bind, hcondition, ok_bind,
    hitems, ok_bind]
  exact ⟨_, rfl⟩

/-- **The head of a loop means what it means outside of the loop.** In a loop that compiles, the
variables are those of the declaration alone. Its step is an expression exactly if it is a single
step or made of plain assignments, and then the loop changes what the expression sets. Conversely,
any plain assignments that compile as an expression can be the step of a loop. -/
theorem loop_head_as_outside (span : Option Span) (init test step : Option Node) (body : Node) :
    (∀ v, statement (.forLoop span init test step body) = .ok v →
      (∃ declaration w mapping, init = some declaration ∧ term declaration = .ok w ∧
        w.field? "let" = some (.obj mapping) ∧ v.field? "for" = some (.obj mapping)) ∧
      ∃ update, step = some update ∧
        ((∃ w, term update = .ok w) ↔ update.standsAlone = true) ∧
        ∀ w, term update = .ok w → ∃ mapping,
          w.field? "set" = some (.obj mapping) ∧ v.field? "step" = some (.obj mapping)) ∧
    ∀ place items w, step = some (.sequence place items) → items ≠ [] →
      (∀ item ∈ items, item.isPlainAssignment = true) → term (.sequence place items) = .ok w →
      LoopParts init test body → ∃ v, statement (.forLoop span init test step body) = .ok v := by
  constructor
  · intro v h
    have hsteps := isStep_of_forLoop_ok h
    obtain ⟨place, declarators, kind, bound, changes, condition, items, rfl, hbound, hne, hchanges,
      -, -, rfl⟩ := forLoop_ok h
    have hinit : term (.declaration place declarators kind) =
        .ok (tagged place [("let", .obj (Entries.ofList bound))]) := by
      rw [term, hbound]
      rfl
    refine ⟨⟨_, _, Entries.ofList bound, rfl, hinit, ?_, ?_⟩, ?_⟩
    · cases place <;> rfl
    · cases span <;> rfl
    cases step with
    | none => exact absurd rfl hne
    | some update =>
        have hterm (halone : update.standsAlone = true) : term update =
            .ok (tagged update.span [("set", .obj (Entries.ofList changes))]) := by
          rw [term_of_standsAlone halone, hchanges]
          rfl
        refine ⟨update, rfl, ⟨?_, fun halone => ⟨_, hterm halone⟩⟩,
          fun w hw => ⟨Entries.ofList changes, ?_, ?_⟩⟩
        · rintro ⟨w, hw⟩
          exact standsAlone_of_term_ok hsteps hw
        · rw [hterm (standsAlone_of_term_ok hsteps hw), Except.ok.injEq] at hw
          subst hw
          cases update.span <;> rfl
        · cases span <;> rfl
  · rintro place items w rfl hne hplain hitems hparts
    obtain ⟨bound, hbound, -⟩ := sequence_ok hitems
    rw [assignments_eq_steps hplain] at hbound
    exact forLoop_ok_of_parts hparts hne
      (fun part hpart => isStep_of_isPlainAssignment (hplain part hpart)) hbound

/-- The assignments of `i = f(j), j = i, i = 0`. -/
def exchange : List Node :=
  [.assignment none "=" (.identifier none "i")
      (.call none (.identifier none "f") [.identifier none "j"]),
    .assignment none "=" (.identifier none "j") (.identifier none "i"),
    .assignment none "=" (.identifier none "i") (.literal none none (.int 0) .null)]

/-- The declaration `var i = 1`. -/
def declareI : Node :=
  .declaration none [⟨none, .identifier none "i", some (.literal none none (.int 1) .null)⟩] "var"

theorem loop_head_as_outside_exchange :
    term (.sequence none exchange) =
        .ok (.obj [("set", .obj [("i", .int 0), ("j", .str "i")])]) ∧
      LoopParts (some declareI) none (.empty none) ∧
      ∃ v, statement (.forLoop none (some declareI) none (some (.sequence none exchange))
          (.empty none)) = .ok v ∧
        v.field? "for" = some (.obj [("i", .int 1)]) ∧
        v.field? "step" = some (.obj [("i", .int 0), ("j", .str "i")]) := by
  have hset : term (.sequence none exchange) =
      .ok (.obj [("set", .obj [("i", .int 0), ("j", .str "i")])]) := by cbv
  have hdeclare : term declareI = .ok (.obj [("let", .obj [("i", .int 1)])]) := by cbv
  have hempty : statementBody (.empty none) = .ok [] := by cbv
  have hparts : LoopParts (some declareI) none (.empty none) :=
    ⟨⟨_, _, _, _, rfl, hdeclare⟩, by rintro condition ⟨⟩, ⟨_, hempty⟩⟩
  have hloop := loop_head_as_outside none (some declareI) none (some (.sequence none exchange))
    (.empty none)
  obtain ⟨v, hv⟩ := hloop.2 none exchange _ rfl (by decide) (by decide) hset hparts
  obtain ⟨⟨declaration, w, declared, hinit, hw, hlet, hfor⟩, update, hupdate, -, hset'⟩ :=
    hloop.1 v hv
  cases hinit
  cases hupdate
  obtain ⟨changed, hchanged, hstep⟩ := hset' _ hset
  rw [hdeclare] at hw
  cases hw
  cases hlet
  cases hchanged
  exact ⟨hset, hparts, v, hv, hfor, hstep⟩

end Node

end PfaScript
