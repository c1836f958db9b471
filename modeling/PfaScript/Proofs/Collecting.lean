import Mathlib
import PfaScript.Proofs.Entries
import PfaScript.Proofs.Inversion

/-!
# Names that are bound and assigned together

A declaration, comma-separated assignments and the two heads of a `for` loop each collect values by
name. What is listed is one value for each part, in source order: that of its own right side, which
a compound assignment, `++` and `--` combine with the variable (`Declares`, `Changes`).

**Theorem** (`Node.collected_by_name`): the mapping that is made of these has each name once, where
it is first listed, with the value that is listed last. So it has an entry for every part exactly if
no name is listed twice, and then it is the list itself (`Collected`).
-/

namespace PfaScript

/-- The mapping collects the listed values by name: a name that is listed more than once has its
first place and its last value. -/
structure Collected (listed : List (String × Json)) (mapping : Entries String Json) : Prop where
  keys_eq : mapping.keys = (Entries.keys listed).eraseDups
  get?_eq (name : String) : mapping.get? name = Entries.get? listed.reverse name
  /-- No name is listed twice, and all that is listed is there. -/
  eq_of_nodup : (Entries.keys listed).Nodup → mapping = listed
  /-- Some name is listed twice, and something is missing. -/
  length_lt : ¬ (Entries.keys listed).Nodup → mapping.length < listed.length

theorem collected_ofList (listed : List (String × Json)) :
    Collected listed (Entries.ofList listed) where
  keys_eq := Entries.keys_ofList listed
  get?_eq := Entries.get?_ofList listed
  eq_of_nodup := Entries.ofList_eq_self
  length_lt := Entries.length_ofList_lt

namespace Node

/-! ### The value of one part -/

/-- The declarator binds the name to the value. -/
inductive Declares : Declarator Node → String × Json → Prop
  | intro {span place : Option Span} {name : String} {init : Node} {value : Json}
      (h : term init = .ok value) :
      Declares ⟨span, .identifier place name, some init⟩ (name, value)

/-- The assignment, `++` or `--` gives the named variable the value. -/
inductive Changes : Node → String × Json → Prop
  | plain {span place : Option Span} {name : String} {right : Node} {value : Json}
      (h : term right = .ok value) :
      Changes (.assignment span "=" (.identifier place name) right) (name, value)
  | compound {span place : Option Span} {operator function name : String} {right : Node}
      {value : Json} (hoperator : compoundFunction? operator = some function)
      (h : term right = .ok value) :
      Changes (.assignment span operator (.identifier place name) right)
        (name, application span function [.str name, value])
  | count {span place : Option Span} {operator function name : String} {leading : Bool}
      (hoperator : updateFunction? operator = some function) :
      Changes (.update span operator (.identifier place name) leading)
        (name, application span function [.str name, .int 1])

/-- A step of a `for` loop changes its variable as the step says. -/
theorem changes_of_stepChange_ok {node : Node} {change : String × Json} (hstep : node.isStep = true)
    (h : stepChange node = .ok change) : Changes node change := by
  obtain ⟨name, value⟩ := change
  obtain ⟨span, operator, place, right, given, rfl, hgiven, hvalue⟩ |
    ⟨span, operator, place, leading, function, rfl, hfunction, rfl⟩ := stepChange_ok h
  · unfold assigned at hvalue
    cases hfunction : compoundFunction? operator with
    | none =>
        -- the only operator of a step that combines nothing
        obtain rfl : operator = "=" := by
          simpa [isStep, isAssignmentOperator, hfunction] using hstep
        cases hvalue
        exact .plain hgiven
    | some function =>
        cases hdefinition : given.isFunctionDefinition with
        | true => simp [hfunction, hdefinition] at hvalue
        | false =>
            simp only [hfunction, hdefinition, Bool.false_eq_true, if_false, Except.ok.injEq]
              at hvalue
            subst hvalue
            exact .compound hfunction hgiven
  · exact .count hfunction

/-! ### The values of all parts -/

theorem declares_of_bindings_ok {declarators : List (Declarator Node)}
    {bound : List (String × Json)} (h : bindings declarators = .ok bound) :
    List.Forall₂ Declares declarators bound := by
  induction declarators generalizing bound with
  | nil =>
      simp only [bindings, Except.ok.injEq] at h
      exact h ▸ .nil
  | cons declarator rest ih =>
      obtain ⟨span, place, name, init, value, others, rfl, hvalue, hothers, rfl⟩ :=
        bindings_cons_ok h
      exact .cons (.intro hvalue) (ih hothers)

theorem changes_of_assignments_ok {items : List Node} {bound : List (String × Json)}
    (h : assignments items = .ok bound) : List.Forall₂ Changes items bound := by
  induction items generalizing bound with
  | nil =>
      simp only [assignments, Except.ok.injEq] at h
      exact h ▸ .nil
  | cons item rest ih =>
      obtain ⟨span, place, name, right, value, others, rfl, hvalue, hothers, rfl⟩ :=
        assignments_cons_ok h
      exact .cons (.plain hvalue) (ih hothers)

theorem changes_of_steps_ok {parts : List Node} {changes : List (String × Json)}
    (hparts : ∀ part ∈ parts, part.isStep = true) (h : steps parts = .ok changes) :
    List.Forall₂ Changes parts changes := by
  induction parts generalizing changes with
  | nil =>
      simp only [steps, Except.ok.injEq] at h
      exact h ▸ .nil
  | cons part rest ih =>
      obtain ⟨name, value, others, hfirst, hothers, rfl⟩ := steps_cons_ok h
      obtain ⟨hpart, hrest⟩ := List.forall_mem_cons.mp hparts
      exact .cons (changes_of_stepChange_ok hpart hfirst) (ih hrest hothers)

/-- The parts of the step of a `for` loop that compiles are steps. -/
theorem isStep_of_forLoop_ok {span : Option Span} {init test step : Option Node} {body : Node}
    {v : Json} (h : statement (.forLoop span init test step body) = .ok v) :
    ∀ part ∈ stepParts step, part.isStep = true := by
  obtain ⟨place, declarators, kind, bound, -, -, -, rfl, hbound, -⟩ := forLoop_ok h
  rw [statement_forLoop, hbound, ok_bind] at h
  by_cases hparts : (stepParts step).isEmpty || !(stepParts step).all isStep
  · rw [if_pos hparts] at h
    cases h
  · simp only [Bool.or_eq_true, Bool.not_eq_true', not_or, Bool.not_eq_false] at hparts
    exact List.all_eq_true.mp hparts.2

/-- **Values are collected by name.** In the mappings of a declaration, of comma-separated
assignments, and of the variables and steps of a `for` loop, each name stands where it is first
listed and has the value that is listed last, and what is listed is one value for each part, in
source order. -/
theorem collected_by_name (span : Option Span) (declarators : List (Declarator Node))
    (kind : String) (items : List Node) (init test step : Option Node) (body : Node) (v : Json) :
    (term (.declaration span declarators kind) = .ok v →
      ∃ bound mapping, List.Forall₂ Declares declarators bound ∧ Collected bound mapping ∧
        v = tagged span [("let", .obj mapping)]) ∧
    (term (.sequence span items) = .ok v →
      ∃ bound mapping, List.Forall₂ Changes items bound ∧ Collected bound mapping ∧
        v = tagged span [("set", .obj mapping)]) ∧
    (statement (.forLoop span init test step body) = .ok v →
      ∃ place declarators kind bound declared changes changed condition items,
        init = some (.declaration place declarators kind) ∧
        List.Forall₂ Declares declarators bound ∧ Collected bound declared ∧
        List.Forall₂ Changes (stepParts step) changes ∧ Collected changes changed ∧
        v = tagged span [("for", .obj declared), ("while", condition), ("step", .obj changed),
          ("do", .arr items)]) := by
  refine ⟨fun h => ?_, fun h => ?_, fun h => ?_⟩
  · obtain ⟨bound, hbound, rfl⟩ := declaration_ok h
    exact ⟨bound, _, declares_of_bindings_ok hbound, collected_ofList bound, rfl⟩
  · obtain ⟨bound, hbound, rfl⟩ := sequence_ok h
    exact ⟨bound, _, changes_of_assignments_ok hbound, collected_ofList bound, rfl⟩
  · have hparts := isStep_of_forLoop_ok h
    obtain ⟨place, declarators, kind, bound, changes, condition, items, rfl, hbound, -, hchanges, -,
      -, rfl⟩ := forLoop_ok h
    exact ⟨place, declarators, kind, bound, _, changes, _, condition, items, rfl,
      declares_of_bindings_ok hbound, collected_ofList bound, changes_of_steps_ok hparts hchanges,
      collected_ofList changes, rfl⟩

/-- The declarators of `var a = f(), a = g()`. -/
def twiceDeclared : List (Declarator Node) :=
  [⟨none, .identifier none "a", some (.call none (.identifier none "f") [])⟩,
    ⟨none, .identifier none "a", some (.call none (.identifier none "g") [])⟩]

/-- The parts of `i++, j -= 2, i = 0`. -/
def twiceStepped : List Node :=
  [.update none "++" (.identifier none "i") false,
    .assignment none "-=" (.identifier none "j") (.literal none none (.int 2) .null),
    .assignment none "=" (.identifier none "i") (.literal none none (.int 0) .null)]

/-- The loop `for (var a = f(), a = g(); ; i++, j -= 2, i = 0) {}`. -/
def twiceLoop : Node :=
  .forLoop none (some (.declaration none twiceDeclared "var")) none
    (some (.sequence none twiceStepped)) (.block none [])

/-- What `twiceLoop` is compiled to. -/
def twiceLoopTerm : Json :=
  .obj [("for", .obj [("a", .obj [("g", .arr [])])]), ("while", .bool true),
    ("step", .obj [("i", .int 0), ("j", .obj [("-", .arr [.str "j", .int 2])])]), ("do", .arr [])]

theorem collected_by_name_twiceLoop :
    statement twiceLoop = .ok twiceLoopTerm ∧
      ∃ changes changed, List.Forall₂ Changes twiceStepped changes ∧ Collected changes changed ∧
        changed = [("i", .int 0), ("j", .obj [("-", .arr [.str "j", .int 2])])] := by
  have hloop : statement twiceLoop = .ok twiceLoopTerm := by cbv
  obtain ⟨_, _, _, _, _, changes, changed, _, _, -, -, -, hchanges, hchanged, heq⟩ :=
    (collected_by_name none [] "var" [] _ none _ _ _).2.2 hloop
  have hfields : changed = [("i", .int 0), ("j", .obj [("-", .arr [.str "j", .int 2])])] := by
    cases heq
    rfl
  exact ⟨hloop, changes, changed, hchanges, hchanged, hfields⟩

/-- A declaration, comma-separated assignments and the step of a `for` loop can have more parts than
the mapping that is made of them has entries: of two that name one variable the first one is lost,
and with it what it calls. -/
theorem repeated_name_lost :
    (∃ declarators mapping, term (.declaration none declarators "var") =
        .ok (tagged none [("let", .obj mapping)]) ∧ mapping.length < declarators.length) ∧
    (∃ items mapping, term (.sequence none items) = .ok (tagged none [("set", .obj mapping)]) ∧
      mapping.length < items.length) ∧
    ∃ parts changed, statement (.forLoop none (some (.declaration none [] "var")) none
        (some (.sequence none parts)) (.block none [])) =
        .ok (tagged none [("for", .obj []), ("while", .bool true), ("step", .obj changed),
          ("do", .arr [])]) ∧ changed.length < parts.length := by
  exact ⟨⟨twiceDeclared, [("a", .obj [("g", .arr [])])], by cbv, by decide⟩,
    ⟨[.assignment none "=" (.identifier none "a") (.call none (.identifier none "f") []),
      .assignment none "=" (.identifier none "a") (.call none (.identifier none "g") [])],
      [("a", .obj [("g", .arr [])])], by cbv, by decide⟩,
    ⟨[.update none "++" (.identifier none "i") false,
      .update none "++" (.identifier none "i") false],
      [("i", .obj [("+", .arr [.str "i", .int 1])])], by cbv, by decide⟩⟩

end Node

end PfaScript
