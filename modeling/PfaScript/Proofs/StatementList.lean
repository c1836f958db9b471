import Mathlib
import PfaScript.Proofs.Inversion
import PfaScript.Proofs.TermShape

/-!
# Which statements are kept

**Theorem** (`Node.kept_unless_null`): a list of statements compiles to the terms of those
statements that leave something behind, one each and in source order. Nothing is left behind by an
empty statement, as it should be, and by the statement `null;`, whose term is taken for the sign
that there is none. So the terms are those of all statements that are not empty exactly if none of
them is `null;`.

The sign is looked for in the term and not in the statement. That it stands for these two statements
and no others is `Node.isNull_statement`.
-/

namespace PfaScript

namespace Node

/-- Whether a node is an empty statement. -/
def isEmptyStatement : Node → Bool
  | .empty _ => true
  | _ => false

/-- Whether a node is the statement `null;`. -/
def isNullStatement : Node → Bool
  | .expressionStatement _ inner => inner.isNullLiteral
  | _ => false

/-- Whether a statement leaves nothing behind. -/
def leavesNothing (node : Node) : Bool := node.isEmptyStatement || node.isNullStatement

/-! ### One statement -/

theorem conditionalTerm_isNull (span : Option Span) (first : Entries String Json)
    (others : List (Entries String Json)) (otherwise : Option (List Json)) :
    (conditionalTerm span first others otherwise).isNull = false := by
  cases otherwise <;> rfl

/-- A statement that leaves nothing behind has null for its term. -/
theorem statement_of_leavesNothing {node : Node} (h : node.leavesNothing = true) :
    statement node = .ok .null := by
  cases node with
  | empty span => rw [statement]
  | expressionStatement span inner =>
      rw [statement]
      exact term_of_isNullLiteral h
  | _ => cases h

/-- Exactly the statements that leave nothing behind have null for a term. -/
theorem isNull_statement {node : Node} {v : Json} (h : statement node = .ok v) :
    v.isNull = node.leavesNothing := by
  cases node with
  | empty span =>
      rw [statement] at h
      cases h
      rfl
  | expressionStatement span inner =>
      rw [statement] at h
      exact isNull_term h
  | conditionalStatement span test consequent alternate =>
      obtain ⟨condition, items, others, otherwise, -, -, -, rfl⟩ := conditionalStatement_ok h
      exact conditionalTerm_isNull span _ others otherwise
  | whileLoop span test body | doWhileLoop span body test =>
      rw [statement] at h
      exact Yields.seq (Q := (Json.isNull · = false)) (fun _ => .seq fun _ => .ok rfl) v h
  | forLoop span init test step body =>
      obtain ⟨place, declarators, kind, bound, changes, condition, items, -, -, -, -, -, -, rfl⟩ :=
        forLoop_ok h
      rfl
  | forInLoop span left right body =>
      rw [statement] at h
      split at h
      · cases h
      · exact Yields.seq (Q := (Json.isNull · = false)) (fun _ => .seq fun _ => .ok rfl) v h
  | throwStatement span argument =>
      rw [statement] at h
      split at h <;> cases h
      rfl
  | literal span raw value pattern =>
      rw [statement_of_not_isStatement rfl] at h
      cases h
  | _ => exact isNull_term (term_of_statement_ok rfl h)

theorem not_isNull_statement {node : Node} {v : Json} (h : node.leavesNothing = false)
    (hv : statement node = .ok v) : ¬ v.isNull = true := by
  rw [isNull_statement hv, h]
  exact Bool.false_ne_true

/-! ### Lists of statements -/

/-- The items are the terms of these statements, one each and in the same order. -/
def Compiled (nodes : List Node) (items : List Json) : Prop :=
  List.Forall₂ (fun node item => statement node = .ok item) nodes items

theorem statements_cons_of_leavesNothing {node : Node} (h : node.leavesNothing = true)
    (rest : List Node) : statements (node :: rest) = statements rest := by
  rw [statements, statement_of_leavesNothing h]
  cases statements rest <;> rfl

theorem statements_cons_ok_iff {node : Node} (h : node.leavesNothing = false) {rest : List Node}
    {items : List Json} :
    statements (node :: rest) = .ok items ↔
      ∃ first others, statement node = .ok first ∧ statements rest = .ok others ∧
        items = first :: others := by
  constructor
  · intro hitems
    obtain ⟨first, others, hfirst, hothers, rfl⟩ := statements_cons_ok hitems
    exact ⟨first, others, hfirst, hothers, if_neg (not_isNull_statement h hfirst)⟩
  · rintro ⟨first, others, hfirst, hothers, rfl⟩
    rw [statements, hfirst, hothers, ok_bind, ok_bind, if_neg (not_isNull_statement h hfirst),
      pure_eq_ok]

/-- A list of statements compiles exactly if each statement that leaves something behind does. -/
theorem statements_ok_iff {nodes : List Node} {items : List Json} :
    statements nodes = .ok items ↔
      Compiled (nodes.filter fun node => !node.leavesNothing) items := by
  induction nodes generalizing items with
  | nil =>
      rw [statements, List.filter_nil, Compiled, List.forall₂_nil_left_iff, Except.ok.injEq]
      exact eq_comm
  | cons node rest ih =>
      cases hnothing : node.leavesNothing with
      | true =>
          rw [statements_cons_of_leavesNothing hnothing, ih,
            List.filter_cons_of_neg (by simp [hnothing])]
      | false =>
          rw [statements_cons_ok_iff hnothing, List.filter_cons_of_pos (by simp [hnothing]),
            Compiled, List.forall₂_cons_left_iff]
          simp only [ih, Compiled]

/-- The statements that leave something behind are all that are not empty exactly if none of them is
`null;`. -/
theorem length_kept_eq_iff {nodes : List Node} :
    (nodes.filter fun node => !node.leavesNothing).length =
        (nodes.filter fun node => !node.isEmptyStatement).length ↔
      ∀ node ∈ nodes, node.isNullStatement = false := by
  have hkept : (nodes.filter fun node => !node.leavesNothing) =
      (nodes.filter fun node => !node.isEmptyStatement).filter
        fun node => !node.isNullStatement := by
    rw [List.filter_filter]
    exact List.filter_congr fun node _ => by rw [leavesNothing, Bool.not_or, Bool.and_comm]
  rw [hkept, List.length_filter_eq_length_iff]
  constructor
  · intro hall node hnode
    cases hempty : node.isEmptyStatement with
    | true =>
        cases node with
        | empty span => rfl
        | _ => cases hempty
    | false => simpa using hall node (List.mem_filter.mpr ⟨hnode, by rw [hempty]; rfl⟩)
  · intro hall node hnode
    simpa using hall node (List.mem_of_mem_filter hnode)

/-- **Only empty statements and `null;` are dropped.** A list of statements compiles to the given
terms exactly if these are the terms of its statements other than empty ones and `null;`, one each
and in source order. They are the terms of all statements that are not empty exactly if none of the
statements is `null;`. -/
theorem kept_unless_null (nodes : List Node) (items : List Json) :
    (statements nodes = .ok items ↔
      Compiled (nodes.filter fun node => !(node.isEmptyStatement || node.isNullStatement)) items) ∧
    (statements nodes = .ok items →
      (Compiled (nodes.filter fun node => !node.isEmptyStatement) items ↔
        ∀ node ∈ nodes, node.isNullStatement = false)) := by
  refine ⟨statements_ok_iff, fun h => ?_⟩
  have hkept := statements_ok_iff.mp h
  constructor
  · intro hall
    exact length_kept_eq_iff.mp (hkept.length_eq.trans hall.length_eq.symm)
  · intro hnone
    have hsame : (nodes.filter fun node => !node.isEmptyStatement) =
        nodes.filter fun node => !node.leavesNothing :=
      List.filter_congr fun node hnode => by rw [leavesNothing, hnone node hnode, Bool.or_false]
    rw [hsame]
    exact hkept

/-- The statements `x; ; null; y;`. -/
def withNullStatement : List Node :=
  [.expressionStatement none (.identifier none "x"), .empty none,
    .expressionStatement none (.literal none none .null .null),
    .expressionStatement none (.identifier none "y")]

theorem kept_unless_null_names :
    statements withNullStatement = .ok [.str "x", .str "y"] ∧
      Compiled (withNullStatement.filter fun node =>
        !(node.isEmptyStatement || node.isNullStatement)) [.str "x", .str "y"] ∧
      ¬ Compiled (withNullStatement.filter fun node => !node.isEmptyStatement)
        [.str "x", .str "y"] := by
  have h : statements withNullStatement = .ok [.str "x", .str "y"] := by cbv
  obtain ⟨hkept, hall⟩ := kept_unless_null withNullStatement [.str "x", .str "y"]
  refine ⟨h, hkept.mp h, fun hcompiled => ?_⟩
  have hnone := (hall h).mp hcompiled (.expressionStatement none (.literal none none .null .null))
    (by simp [withNullStatement])
  cases hnone

/-- Not every statement that is not empty has a term in the list: `null;` at the end of a body is
lost, and with it the value of the body. -/
theorem null_statement_lost :
    ∃ nodes items, statements nodes = .ok items ∧
      items.length ≠ (nodes.filter fun node => !node.isEmptyStatement).length :=
  ⟨[.expressionStatement none (.identifier none "x"),
    .expressionStatement none (.literal none none .null .null)], [.str "x"], by cbv, by decide⟩

end Node

end PfaScript
