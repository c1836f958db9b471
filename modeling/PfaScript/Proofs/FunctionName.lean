import Mathlib
import PfaScript.Proofs.Reference

/-!
# Names of functions in order

The parts of a callee are what its plain accesses put together, on both sides of their points
(`Node.nameParts`). A callee names a function if all parts are identifiers (`Node.Spells`).

**Theorem** (`Node.function_name_in_order`): exactly these callees have a name, which is made of
their identifiers from left to right with points between them. Any other callee is refused at its
first part that is no identifier.
-/

namespace PfaScript

namespace Node

/-- The parts of a callee from left to right. A computed access is a part of its own. -/
def nameParts : Node → List Node
  | .member _ base access false => base.nameParts ++ access.nameParts
  | node => [node]

/-- The callee is a tree of plain accesses with identifiers as leaves, and these are their names
from left to right. -/
inductive Spells : Node → List String → Prop
  | identifier (span : Option Span) (name : String) : Spells (.identifier span name) [name]
  | member {base access : Node} {left right : List String} (span : Option Span)
      (hbase : Spells base left) (haccess : Spells access right) :
      Spells (.member span base access false) (left ++ right)

/-- The first part of a callee that is no identifier. -/
def nameless? (node : Node) : Option Node :=
  node.nameParts.find? (!·.isIdentifier)

theorem nameless?_member (span : Option Span) (base access : Node) :
    (Node.member span base access false).nameless? = base.nameless?.or access.nameless? := by
  rw [nameless?, nameParts, List.find?_append]
  rfl

namespace Spells

variable {node : Node} {names : List String}

theorem ne_nil (h : Spells node names) : names ≠ [] := by
  induction h with
  | identifier => exact List.cons_ne_nil _ _
  | member _ _ _ ihbase => simp [ihbase]

theorem functionName_eq (h : Spells node names) :
    node.functionName = .ok (".".intercalate names) := by
  induction h with
  | identifier => rw [functionName, String.intercalate_singleton]
  | member span hbase haccess ihbase ihaccess =>
      rw [functionName, ihbase, ihaccess,
        String.intercalate_append_of_ne_nil hbase.ne_nil haccess.ne_nil]
      rfl

/-- A name has a point for each access, if there are none in the identifiers. -/
theorem count_point (h : Spells node names) (hplain : ∀ name ∈ names, '.' ∉ name.toList) :
    (".".intercalate names).toList.count '.' = node.walk.countP isMember := by
  induction h with
  | identifier span name =>
      rw [String.intercalate_singleton, List.count_eq_zero.mpr (hplain name List.mem_cons_self),
        walk]
      rfl
  | member span hbase haccess ihbase ihaccess =>
      obtain ⟨hleft, hright⟩ := List.forall_mem_append.mp hplain
      rw [String.intercalate_append_of_ne_nil hbase.ne_nil haccess.ne_nil, walk,
        List.countP_cons_of_pos rfl, List.countP_append, ← ihbase hleft, ← ihaccess hright]
      have hpoint : ".".toList.count '.' = 1 := by decide
      rw [String.toList_append, String.toList_append, List.count_append, List.count_append, hpoint]
      omega

end Spells

/-- A callee is made of identifiers, or it is refused at its first part that is none. -/
theorem spells_or_refused (node : Node) :
    (∃ names, node.Spells names ∧ node.nameless? = none) ∨
      ∃ part, node.nameless? = some part ∧
        node.functionName = .error ⟨.functionName, part.span⟩ := by
  cases node with
  | identifier span name => exact .inl ⟨[name], .identifier span name, rfl⟩
  | member span base access computed =>
      cases computed with
      | true => exact .inr ⟨_, rfl, rfl⟩
      | false =>
          rw [nameless?_member, functionName]
          rcases spells_or_refused base with ⟨left, hbase, hnone⟩ | ⟨part, hpart, hfault⟩
          · rw [hnone, hbase.functionName_eq, Option.none_or]
            rcases spells_or_refused access with ⟨right, haccess, hnone⟩ | ⟨part, hpart, hfault⟩
            · exact .inl ⟨_, .member span hbase haccess, hnone⟩
            · refine .inr ⟨part, hpart, ?_⟩
              rw [hfault]
              rfl
          · refine .inr ⟨part, ?_, ?_⟩
            · rw [hpart, Option.some_or]
            · rw [hfault]
              rfl
  | _ => exact .inr ⟨_, rfl, rfl⟩

/-- **A function's name is made of its identifiers in order.** A callee has a name exactly if it is
a tree of plain accesses with identifiers as leaves. The name consists of the identifiers from left
to right, joined by points, so that it has as many points as there are accesses if there are none in
the identifiers. Any other callee is refused at its first part that is no identifier: a computed
access, or a leaf of another kind. -/
theorem function_name_in_order (node : Node) :
    ((∃ name, node.functionName = .ok name) ↔ ∃ names, node.Spells names) ∧
    (∀ names, node.Spells names →
      node.functionName = .ok (".".intercalate names) ∧
        ((∀ name ∈ names, '.' ∉ name.toList) →
          (".".intercalate names).toList.count '.' = node.walk.countP isMember)) ∧
    ((∀ names, ¬ node.Spells names) →
      ∃ before part after, node.nameParts = before ++ part :: after ∧
        (∀ earlier ∈ before, earlier.isIdentifier = true) ∧ part.isIdentifier = false ∧
        node.functionName = .error ⟨.functionName, part.span⟩ ∧
        Cause.functionName.kind = .invalidFunctionName) := by
  refine ⟨⟨?_, ?_⟩, fun names h => ⟨h.functionName_eq, h.count_point⟩, fun hnone => ?_⟩
  · rintro ⟨name, hname⟩
    rcases node.spells_or_refused with ⟨names, h, -⟩ | ⟨part, -, hfault⟩
    · exact ⟨names, h⟩
    · rw [hfault] at hname
      cases hname
  · rintro ⟨names, h⟩
    exact ⟨_, h.functionName_eq⟩
  · rcases node.spells_or_refused with ⟨names, h, -⟩ | ⟨part, hpart, hfault⟩
    · exact absurd h (hnone names)
    · obtain ⟨hnameless, before, after, hparts, hbefore⟩ := List.find?_eq_some_iff_append.mp hpart
      exact ⟨before, part, after, hparts, by simpa using hbefore, by simpa using hnameless, hfault,
        rfl⟩

/-- The callee `a.(b.c).d`, or `a.(b[c]).d`: there may be accesses on both sides of a point. -/
def grouped (computed : Bool) : Node :=
  .member none (.member none (.identifier none "a") (.member (some ⟨1, 2, 1, 5⟩)
    (.identifier none "b") (.identifier none "c") computed) false) (.identifier none "d") false

theorem function_name_in_order_grouped :
    (grouped false).Spells ["a", "b", "c", "d"] ∧
      (grouped false).functionName = .ok "a.b.c.d" ∧
      "a.b.c.d".toList.count '.' = (grouped false).walk.countP isMember ∧
      (∀ names, ¬ (grouped true).Spells names) ∧
      ∃ part ∈ (grouped true).nameParts, part.isIdentifier = false ∧
        (grouped true).functionName = .error ⟨.functionName, part.span⟩ := by
  have hspells : (grouped false).Spells ["a", "b", "c", "d"] :=
    .member none (.member none (.identifier none "a")
      (.member _ (.identifier none "b") (.identifier none "c"))) (.identifier none "d")
  have hnone : ∀ names, ¬ (grouped true).Spells names := by
    intro names h
    cases h with
    | member _ hbase =>
        cases hbase with
        | member _ _ haccess => cases haccess
  obtain ⟨hname, hcount⟩ := (function_name_in_order (grouped false)).2.1 _ hspells
  obtain ⟨before, part, after, hparts, -, hpart, hfault, -⟩ :=
    (function_name_in_order (grouped true)).2.2 hnone
  have hmem : part ∈ (grouped true).nameParts := by simp [hparts]
  exact ⟨hspells, hname, hcount (by decide), hnone, part, hmem, hpart, hfault⟩

end Node

end PfaScript
