import PfaScript.Proofs.Guarded
import PfaScript.Proofs.Reading

/-!
# Parameters in parallel lists

A tree can be read with the parameters of its functions and their default values in two lists, which
grow together while the parameters are gone through. A parameter that takes the remaining arguments
is in neither list. A default value that stands in a list beside the parameters is found by the
place of its parameter, and parameters that are in neither list count for the places.
`Guarded.parameters` reads parameters in this way. The lists pair up to the parameters that the
loader reads (`Guarded.parameters_eq`), so they are always of one length.
-/

namespace PfaScript

namespace Guarded

/-- The parameters and default values that are gathered up to some place. -/
structure Gathered where
  targets : List Node
  initials : List (Option Node)
  /-- The parameter that takes the remaining arguments. -/
  rest : Option Node

/-- The default value at a place of the list beside the parameters. -/
def defaultAt (defaults : List (Option Node)) (place : Nat) :
    Except (Failure LoadError) (Option Node) :=
  if place < defaults.length then do
    let ⟨initial, _⟩ ← itemAt defaults place
    return initial
  else .ok none

/-- Goes through the parameters from the given place on. A parameter that is written as a pattern
was read as a construct that is not known, and its parts are read from its payload. -/
def gather (defaults : List (Option Node)) (place : Nat) (sofar : Gathered) :
    List Node → Except (Failure LoadError) Gathered
  | [] => .ok sofar
  | .unsupported _ "AssignmentPattern" payload :: params => do
    let target ← lift (Load.child "AssignmentPattern" "left" payload)
    let initial ← lift (Load.child "AssignmentPattern" "right" payload)
    gather defaults (place + 1)
      ⟨sofar.targets ++ [target], sofar.initials ++ [some initial], sofar.rest⟩ params
  | .unsupported _ "RestElement" payload :: params => do
    let trailing ← lift (Load.child "RestElement" "argument" payload)
    gather defaults (place + 1) ⟨sofar.targets, sofar.initials, some trailing⟩ params
  | param :: params => do
    let initial ← defaultAt defaults place
    gather defaults (place + 1)
      ⟨sofar.targets ++ [param], sofar.initials ++ [initial], sofar.rest⟩ params

/-- Reads the parameters of a function, and the one that takes the remaining arguments. -/
def parameters (tag : String) (defaults : List (Option Node)) (fields : Entries String Json) :
    Except (Failure LoadError) (List (Param Node) × Option Node) := do
  let params ← lift (Load.items tag "params" fields)
  let gathered ← gather defaults 0 ⟨[], [], none⟩ params.reduceOption
  let pairs ← pairUp gathered.targets gathered.initials
  return (pairs, gathered.rest)

/-! ### What is gathered -/

namespace Gathered

/-- What is gathered once these parameters are added, and the one that takes the remaining
arguments. -/
def add (sofar : Gathered) (params : List (Param Node)) (rest : Option Node) : Gathered where
  targets := sofar.targets ++ params.map Param.target
  initials := sofar.initials ++ params.map Param.initial
  rest := rest <|> sofar.rest

theorem add_nil (sofar : Gathered) : sofar.add [] none = sofar := by
  simp [add]

/-- Both lists grow by one item with a parameter. -/
theorem add_cons (sofar : Gathered) (param : Param Node) (params : List (Param Node))
    (rest : Option Node) :
    add ⟨sofar.targets ++ [param.target], sofar.initials ++ [param.initial], sofar.rest⟩ params
      rest = sofar.add (param :: params) rest := by
  simp [add]

/-- Neither list grows with a parameter that takes the remaining arguments; of several the last one
counts. -/
theorem add_rest (sofar : Gathered) (params : List (Param Node)) (trailing : Node)
    (rest : Option Node) :
    add ⟨sofar.targets, sofar.initials, some trailing⟩ params rest =
      sofar.add params (rest <|> some trailing) := by
  cases rest <;> rfl

end Gathered

/-- A default value is found by its place if there are so many. -/
theorem defaultAt_eq (defaults : List (Option Node)) (place : Nat) :
    defaultAt defaults place = .ok (defaults.drop place).head?.join := by
  induction defaults generalizing place with
  | nil => simp [defaultAt]
  | cons first rest ih =>
      cases place with
      | zero => cases first <;> rfl
      | succ place =>
          rw [List.drop_succ_cons, ← ih, defaultAt, defaultAt]
          simp only [List.length_cons, Nat.add_lt_add_iff_right, itemAt, bind_assoc]
          rfl

/-- The parameters from some place on add what the loader gives from there on. -/
theorem gather_eq (defaults : List (Option Node)) {values : List Json} {read : List (Option Node)}
    (hread : Load.nodes values = .ok read) (place : Nat) (sofar : Gathered) :
    gather defaults place sofar read.reduceOption = lift (do
      let (params, rest) ← Load.attach (defaults.drop place) values read
      return sofar.add params rest) := by
  induction values generalizing read place sofar with
  | nil =>
      rw [Load.nodes] at hread
      obtain rfl := Except.ok.inj hread
      rw [Load.attach]
      · simp [List.reduceOption_nil, gather, Gathered.add_nil]
      · simp
      · simp
  | cons v values ih =>
      rw [Load.nodes] at hread
      split at hread
      · obtain ⟨others, hothers, hread⟩ := bind_eq_ok_iff.mp hread
        obtain rfl := Except.ok.inj hread
        rw [List.reduceOption_cons_of_none, ih hothers, Load.attach]
      · obtain ⟨first, hfirst, hread⟩ := bind_eq_ok_iff.mp hread
        obtain ⟨others, hothers, hread⟩ := bind_eq_ok_iff.mp hread
        obtain rfl := Except.ok.inj hread
        rw [List.reduceOption_cons_of_some]
        by_cases hpattern : ∃ span payload, first = .unsupported span "AssignmentPattern" payload
        · obtain ⟨span, payload, rfl⟩ := hpattern
          obtain ⟨rfl, -⟩ := Load.node_eq_unsupported hfirst
          rw [gather, Load.attach]
          simp only [lift_bind, bind_assoc, ih hothers, List.tail_drop, pure_eq_ok, lift_ok,
            ok_bind, ← Gathered.add_cons]
        by_cases htrailing : ∃ span payload, first = .unsupported span "RestElement" payload
        · obtain ⟨span, payload, rfl⟩ := htrailing
          obtain ⟨rfl, -⟩ := Load.node_eq_unsupported hfirst
          rw [gather, Load.attach]
          simp only [lift_bind, bind_assoc, ih hothers, List.tail_drop, pure_eq_ok, lift_ok,
            ok_bind, ← Gathered.add_rest]
        · rw [gather, Load.attach, defaultAt_eq]
          · simp only [lift_bind, bind_assoc, ih hothers, List.tail_drop, pure_eq_ok, lift_ok,
              ok_bind, ← Gathered.add_cons]
          · rintro span payload fields hfirst -
            exact hpattern ⟨span, payload, hfirst⟩
          · rintro span payload fields hfirst -
            exact htrailing ⟨span, payload, hfirst⟩
          · rintro span payload hfirst
            exact hpattern ⟨span, payload, hfirst⟩
          · rintro span payload hfirst
            exact htrailing ⟨span, payload, hfirst⟩

/-- **The two lists pair up to the parameters that the loader reads.** -/
theorem parameters_eq (tag : String) (defaults : List (Option Node))
    (fields : Entries String Json) :
    parameters tag defaults fields = lift (Load.parameters tag defaults fields) := by
  rw [parameters, Load.items_eq, Load.parameters_eq]
  cases fields.get? "params" with
  | none => rfl
  | some v =>
      cases v with
      | arr values =>
          rw [Load.itemsOf, Load.parametersOf]
          cases hread : Load.nodes values with
          | error fault => rfl
          | ok read =>
              simp only [lift_ok, ok_bind, gather_eq defaults hread, lift_bind, bind_assoc,
                pure_eq_ok, Gathered.add, List.nil_append, pairUp_map, List.drop_zero]
              cases Load.attach defaults values read with
              | error fault => rfl
              | ok gathered => simp
      | _ => rfl

end Guarded

end PfaScript
