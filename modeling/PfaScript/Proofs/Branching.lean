import Mathlib
import PfaScript.Proofs.Inversion
import PfaScript.Proofs.Marker

/-!
# Chains of conditional statements

A conditional statement whose alternative is another one, and so on, is compiled to a single term
with one arm for each of them. **Theorem** (`Node.chain_flattened`): the term has exactly the arms
of the chain, in order and each with its own place, and an `else` exactly if the chain ends in one.
So, whichever tests are true, the arm that is first in the term is the branch that the nested
statements lead to.

The chain is read off the tree by `Node.arms` and `Node.lastAlternate`, and followed by
`Node.chosen`; what a term chooses is read off the term alone, by `Json.chosen`.
-/

namespace PfaScript

/-! ### Choosing by position -/

/-- The first item of a list at a position that is true. -/
def pick {α : Type} (truth : Nat → Bool) : List α → Option α
  | [] => none
  | item :: rest => if truth 0 then some item else pick (fun i => truth (i + 1)) rest

/-- The same position is picked from two lists of the same length. -/
theorem pick_rel {α β : Type} {R : α → β → Prop} {items : List α} {others : List β}
    (h : List.Forall₂ R items others) (truth : Nat → Bool) :
    Option.Rel R (pick truth items) (pick truth others) := by
  induction h generalizing truth with
  | nil => exact .none
  | cons hfirst _ ih =>
      rw [pick, pick]
      split
      · exact .some hfirst
      · exact ih _

namespace Json

/-- The arms of a conditional term: those of a choice between several, or the term itself. -/
def arms (v : Json) : List Json :=
  match v.field? "cond" with
  | some (.arr items) => items
  | _ => [v]

/-- The list of terms under a key. -/
def bodyAt (v : Json) (key : String) : Option (List Json) :=
  match v.field? key with
  | some (.arr items) => some items
  | _ => none

/-- What a conditional term does if its tests have the given truth values, in order: the first arm
whose test is true, otherwise its `else`, otherwise nothing. -/
def chosen (truth : Nat → Bool) (v : Json) : Option (List Json) :=
  match pick truth v.arms with
  | some arm => arm.bodyAt "then"
  | none => v.bodyAt "else"

end Json

namespace Node

/-! ### Chains in scripts -/

/-- One conditional statement of a chain, apart from its alternative. -/
structure Arm where
  span : Option Span
  test : Node
  body : Node

/-- The statements of a chain: a conditional statement, its alternative if that is one too, and so
on. -/
def arms : Option Node → List Arm
  | some (.conditionalStatement span test consequent alternate) =>
    ⟨span, test, consequent⟩ :: arms alternate
  | _ => []

/-- The alternative at the end of a chain, which is no conditional statement. -/
def lastAlternate : Option Node → Option Node
  | some (.conditionalStatement _ _ _ alternate) => lastAlternate alternate
  | last => last

/-- The branch that a chain leads to if its tests have the given truth values, in order. -/
def chosen (truth : Nat → Bool) : Option Node → Option Node
  | some (.conditionalStatement _ _ consequent alternate) =>
    if truth 0 then some consequent else chosen (fun i => truth (i + 1)) alternate
  | last => last

/-- What nested statements lead to is the first arm that applies, or else the end of the chain. -/
theorem chosen_eq (truth : Nat → Bool) (node : Option Node) :
    chosen truth node = ((pick truth (arms node)).map Arm.body).or (lastAlternate node) := by
  fun_induction arms node generalizing truth with
  | case1 span test consequent alternate ih =>
      rw [chosen, pick, lastAlternate]
      split
      · rfl
      · exact ih _
  | case2 last hlast =>
      rw [chosen, lastAlternate]
      · rfl
      all_goals exact hlast

/-! ### Chains in terms -/

/-- The compiled arm: its test, its statements and its own place, and nothing else. -/
def CompiledArm (arm : Arm) (entries : Entries String Json) : Prop :=
  ∃ condition items, term arm.test = .ok condition ∧ statementBody arm.body = .ok items ∧
    entries = marker arm.span ++ [("if", condition), ("then", .arr items)]

/-- The entry for what is done if no arm applies. -/
def elseEntry : Option (List Json) → Entries String Json
  | some items => [("else", .arr items)]
  | none => []

/-- The term of a chain with these arms: a single arm stands for itself, several make one choice at
the place of the first. -/
def chainTerm (span : Option Span) (arms : List (Entries String Json))
    (otherwise : Option (List Json)) : Json :=
  match arms with
  | [only] => .obj (only ++ elseEntry otherwise)
  | _ => .obj (marker span ++ [("cond", .arr (arms.map Json.obj))] ++ elseEntry otherwise)

theorem branch_eq (span : Option Span) (condition : Json) (items : List Json) :
    branch span condition items = marker span ++ [("if", condition), ("then", .arr items)] := by
  cases span <;> rfl

theorem conditionalTerm_eq_chainTerm (span : Option Span) (condition : Json) (items : List Json)
    (others : List (Entries String Json)) (otherwise : Option (List Json)) :
    conditionalTerm span (branch span condition items) others otherwise =
      chainTerm span (branch span condition items :: others) otherwise := by
  cases span <;> cases others <;> cases otherwise <;> rfl

/-- The branch and its compiled statements. -/
def CompiledBody (node : Node) (items : List Json) : Prop := statementBody node = .ok items

/-- The alternatives of a conditional statement are the arms of the chain that they begin. -/
theorem alternatives_ok_iff {alternate : Option Node} {others : List (Entries String Json)}
    {otherwise : Option (List Json)} :
    alternatives alternate = .ok (others, otherwise) ↔
      List.Forall₂ CompiledArm (arms alternate) others ∧
        Option.Rel CompiledBody (lastAlternate alternate) otherwise := by
  fun_induction arms alternate generalizing others otherwise with
  | case1 span test consequent alternate ih =>
      simp only [alternatives, bind_eq_ok_iff, lastAlternate]
      constructor
      · rintro ⟨condition, hcondition, items, hitems, ⟨rest, last⟩, hrest, h⟩
        cases h
        obtain ⟨harms, hlast⟩ := ih.mp hrest
        refine ⟨.cons ⟨condition, items, hcondition, hitems, ?_⟩ harms, hlast⟩
        exact branch_eq span condition items
      · rintro ⟨harms, hlast⟩
        cases harms with
        | @cons _ entries _ rest hfirst hrest =>
            obtain ⟨condition, items, hcondition, hitems, rfl⟩ := hfirst
            refine ⟨condition, hcondition, items, hitems, (rest, otherwise),
              ih.mpr ⟨hrest, hlast⟩, ?_⟩
            rw [branch_eq]
            rfl
  | case2 last hlast =>
      have hend : lastAlternate last = last := by rw [lastAlternate]; exact hlast
      rw [hend, List.forall₂_nil_left_iff]
      cases last with
      | none =>
          rw [alternatives, Except.ok.injEq, Prod.mk.injEq]
          constructor
          · rintro ⟨rfl, rfl⟩
            exact ⟨rfl, .none⟩
          · rintro ⟨rfl, hrel⟩
            cases hrel
            exact ⟨rfl, rfl⟩
      | some node =>
          have hother : node.isConditional = false := by
            cases node with
            | conditionalStatement span test consequent alternate =>
                exact absurd rfl (hlast span test consequent alternate)
            | _ => rfl
          rw [alternatives_of_not_isConditional hother, bind_eq_ok_iff]
          constructor
          · rintro ⟨items, hitems, h⟩
            cases h
            exact ⟨rfl, .some hitems⟩
          · rintro ⟨rfl, hrel⟩
            cases hrel with
            | some hitems => exact ⟨_, hitems, rfl⟩

/-- A conditional statement compiles exactly if all parts of its chain do. -/
theorem statement_conditional_ok_iff {span : Option Span} {test consequent : Node}
    {alternate : Option Node} {v : Json} :
    statement (.conditionalStatement span test consequent alternate) = .ok v ↔
      ∃ compiled otherwise,
        List.Forall₂ CompiledArm
          (arms (some (.conditionalStatement span test consequent alternate))) compiled ∧
        Option.Rel CompiledBody
          (lastAlternate (some (.conditionalStatement span test consequent alternate)))
          otherwise ∧
        v = chainTerm span compiled otherwise := by
  rw [arms, lastAlternate]
  constructor
  · intro h
    obtain ⟨condition, items, others, otherwise, hcondition, hitems, halternatives, rfl⟩ :=
      conditionalStatement_ok h
    obtain ⟨harms, hlast⟩ := alternatives_ok_iff.mp halternatives
    have hfirst : CompiledArm ⟨span, test, consequent⟩ (branch span condition items) :=
      ⟨condition, items, hcondition, hitems, branch_eq span condition items⟩
    exact ⟨_, otherwise, .cons hfirst harms, hlast,
      conditionalTerm_eq_chainTerm span condition items others otherwise⟩
  · rintro ⟨compiled, otherwise, harms, hlast, rfl⟩
    cases harms with
    | @cons _ entries _ others hfirst hothers =>
        obtain ⟨condition, items, hcondition, hitems, rfl⟩ := hfirst
        simp only at hcondition hitems
        rw [statement, hcondition, hitems, alternatives_ok_iff.mpr ⟨hothers, hlast⟩,
          ← branch_eq, ← conditionalTerm_eq_chainTerm]
        rfl

/-! ### What a term chooses -/

/-- The statements of an arm are found in it, whatever is added behind. -/
theorem bodyAt_then (span : Option Span) (condition : Json) (items : List Json)
    (added : Entries String Json) :
    (Json.obj (marker span ++ [("if", condition), ("then", .arr items)] ++ added)).bodyAt "then" =
      some items := by
  cases span <;> rfl

section chosen

variable {chain : List Arm} {compiled : List (Entries String Json)}

/-- The arms that are read off a term are those of the chain, each with its own statements. -/
theorem arms_chainTerm (h : List.Forall₂ CompiledArm chain compiled) (hne : chain ≠ [])
    (span : Option Span) (otherwise : Option (List Json)) :
    List.Forall₂ (fun arm v => ∃ items, CompiledBody arm.body items ∧ v.bodyAt "then" = some items)
      chain (chainTerm span compiled otherwise).arms := by
  cases h with
  | nil => exact absurd rfl hne
  | @cons arm entries others rest hfirst hrest =>
      cases hrest with
      | nil =>
          -- A single arm is the whole term, which may have an `else` besides.
          obtain ⟨condition, items, -, hitems, rfl⟩ := hfirst
          have harms : (chainTerm span
              [marker arm.span ++ [("if", condition), ("then", .arr items)]] otherwise).arms =
                [.obj (marker arm.span ++ [("if", condition), ("then", .arr items)] ++
                  elseEntry otherwise)] := by
            cases arm.span <;> cases otherwise <;> rfl
          rw [harms]
          exact .cons ⟨items, hitems, bodyAt_then arm.span condition items _⟩ .nil
      | @cons second entries' others' rest' hsecond hrest' =>
          have hall : List.Forall₂ CompiledArm (arm :: second :: others')
              (entries :: entries' :: rest') := .cons hfirst (.cons hsecond hrest')
          have harms : (chainTerm span (entries :: entries' :: rest') otherwise).arms =
              (entries :: entries' :: rest').map Json.obj := by
            cases span <;> rfl
          rw [harms, List.forall₂_map_right_iff]
          refine hall.imp ?_
          rintro arm entries ⟨condition, items, -, hitems, rfl⟩
          have hthen := bodyAt_then arm.span condition items []
          rw [List.append_nil] at hthen
          exact ⟨items, hitems, hthen⟩

theorem bodyAt_else_chainTerm (h : List.Forall₂ CompiledArm chain compiled) (hne : chain ≠ [])
    (span : Option Span) (otherwise : Option (List Json)) :
    (chainTerm span compiled otherwise).bodyAt "else" = otherwise := by
  cases h with
  | nil => exact absurd rfl hne
  | @cons arm entries others rest hfirst hrest =>
      cases hrest with
      | nil =>
          obtain ⟨condition, items, -, -, rfl⟩ := hfirst
          simp only [chainTerm]
          cases arm.span <;> cases otherwise <;> rfl
      | cons => cases span <;> cases otherwise <;> rfl

/-- A term chooses the statements of the branch that its chain leads to. -/
theorem chosen_chainTerm {node : Option Node} (h : List.Forall₂ CompiledArm (arms node) compiled)
    (hne : arms node ≠ []) (span : Option Span) {otherwise : Option (List Json)}
    (hlast : Option.Rel CompiledBody (lastAlternate node) otherwise) (truth : Nat → Bool) :
    Option.Rel CompiledBody (chosen truth node)
      ((chainTerm span compiled otherwise).chosen truth) := by
  rw [chosen_eq, Json.chosen]
  have hpicked := pick_rel (arms_chainTerm h hne span otherwise) truth
  generalize pick truth (arms node) = arm at hpicked ⊢
  generalize pick truth (chainTerm span compiled otherwise).arms = found at hpicked ⊢
  cases hpicked with
  | none =>
      simp only [bodyAt_else_chainTerm h hne]
      exact hlast
  | some hfound =>
      obtain ⟨items, hitems, hthen⟩ := hfound
      simp only [hthen]
      exact .some hitems

end chosen

/-- **Chains are flattened faithfully.** A conditional statement compiles to a term exactly if each
test, each branch and the last alternative of its chain compile, and the term has one arm for each
statement of the chain, in order, with its test, its branch and its place, and an `else` exactly if
the chain has a last alternative. Whatever the truth values of the tests, the term then chooses the
statements of the branch that the nested statements lead to. -/
theorem chain_flattened (span : Option Span) (test consequent : Node) (alternate : Option Node)
    (v : Json) :
    (statement (.conditionalStatement span test consequent alternate) = .ok v ↔
      ∃ compiled otherwise,
        List.Forall₂ CompiledArm
          (arms (some (.conditionalStatement span test consequent alternate))) compiled ∧
        Option.Rel CompiledBody
          (lastAlternate (some (.conditionalStatement span test consequent alternate)))
          otherwise ∧
        v = chainTerm span compiled otherwise) ∧
    (statement (.conditionalStatement span test consequent alternate) = .ok v →
      ∀ truth, Option.Rel CompiledBody
        (chosen truth (some (.conditionalStatement span test consequent alternate)))
        (v.chosen truth)) := by
  refine ⟨statement_conditional_ok_iff, ?_⟩
  intro h truth
  obtain ⟨compiled, otherwise, harms, hlast, rfl⟩ := statement_conditional_ok_iff.mp h
  refine chosen_chainTerm harms ?_ span hlast truth
  rw [arms]
  exact List.cons_ne_nil _ _

/-- The alternative of `grading`, an empty branch with a place of its own and an `else` that holds
another conditional statement in a block. -/
def gradingAlternate : Node :=
  .conditionalStatement (some ⟨2, 7, 3, 20⟩) (.identifier none "b") (.empty none)
    (some (.block none [.conditionalStatement none (.identifier none "c")
      (.expressionStatement none (.identifier none "y")) none]))

/-- The chain

    if (a) { x; }
    else if (b) ;
    else { if (c) y; }
-/
def grading : Node :=
  .conditionalStatement (some ⟨1, 0, 3, 20⟩) (.identifier none "a")
    (.block none [.expressionStatement none (.identifier none "x")]) (some gradingAlternate)

/-- What `grading` is compiled to. The statement in the block is no arm of the chain. -/
def gradingTerm : Json :=
  .obj [("@", .str "JS lines 1 to 3"),
    ("cond", .arr [
      .obj [("@", .str "JS lines 1 to 3"), ("if", .str "a"), ("then", .arr [.str "x"])],
      .obj [("@", .str "JS lines 2 to 3"), ("if", .str "b"), ("then", .arr [])]]),
    ("else", .arr [.obj [("if", .str "c"), ("then", .arr [.str "y"])]])]

theorem chain_flattened_grading :
    statement grading = .ok gradingTerm ∧
      ∀ truth,
        Option.Rel CompiledBody (chosen truth (some grading)) (gradingTerm.chosen truth) := by
  have h : statement grading = .ok gradingTerm := by cbv
  exact ⟨h, (chain_flattened _ _ _ _ gradingTerm).2 h⟩

end Node

end PfaScript
