import Mathlib
import PfaScript.Proofs.Context
import PfaScript.Proofs.Location

/-!
# Braces and empty statements

A script can be edited without changing what it says: an empty statement can be added to a block or
taken out of it, and a loop or branch whose body is one statement can be written with or without
braces. An edit can be made at any depth (`Node.Context`), in functions that are arguments of calls
as well as in the branches of conditional statements.

**Theorem** (`Program.braces_irrelevant`): scripts that differ by such edits compile to the same
document, markers included, or fail with the same fault at the same place.

The script with more braces and empty statements is like the other one, places included. This holds
of the edit itself (`Node.Padded.like`) and is carried outwards by every frame around it
(`Node.Frame.like`), and trees that are alike compile alike.
-/

namespace PfaScript

namespace Node

/-! ### Edits -/

/-- The second node is the first one with one more empty statement, or with braces around a body
that has none. -/
inductive Padded : Node → Node → Prop
  | empty (span place before after) :
    Padded (.block span (before ++ after)) (.block span (before ++ .empty place :: after))
  | consequent (span place test alternate) {body : Node} (h : body.isBlock = false) :
    Padded (.conditionalStatement span test body alternate)
      (.conditionalStatement span test (.block place [body]) alternate)
  | alternate (span place test consequent) {body : Node} (h : body.isBlock = false)
    (hchain : body.isConditional = false) :
    Padded (.conditionalStatement span test consequent (some body))
      (.conditionalStatement span test consequent (some (.block place [body])))
  | whileBody (span place test) {body : Node} (h : body.isBlock = false) :
    Padded (.whileLoop span test body) (.whileLoop span test (.block place [body]))
  | doWhileBody (span place test) {body : Node} (h : body.isBlock = false) :
    Padded (.doWhileLoop span body test) (.doWhileLoop span (.block place [body]) test)
  | forBody (span place init test step) {body : Node} (h : body.isBlock = false) :
    Padded (.forLoop span init test step body)
      (.forLoop span init test step (.block place [body]))
  | forInBody (span place left right) {body : Node} (h : body.isBlock = false) :
    Padded (.forInLoop span left right body) (.forInLoop span left right (.block place [body]))

/-- Braces around a body that has none do not change its statements. -/
theorem bodyStatements_block {body : Node} (h : body.isBlock = false) (place : Option Span) :
    bodyStatements (.block place [body]) = bodyStatements body := by
  rw [bodyStatements_of_not_isBlock h, bodyStatements]

theorem Padded.like {node other : Node} (h : Padded node other) : Like .exact other node := by
  cases h with
  | empty span place before after =>
      refine .block rfl ?_
      induction before with
      | nil => exact .skip rfl (.refl after)
      | cons first rest ih => exact .cons (.refl first) ih
  | @alternate span place test consequent body h hchain =>
      refine .conditionalStatement rfl (.refl test) (.refl _) (.body rfl hchain ?_)
      rw [bodyStatements_block h]
      exact .refl _
  | _ => constructor <;> simp [bodyStatements_block, *]

/-- Lists that differ in one place. -/
theorem forall₂_middle {α : Type} {R : α → α → Prop} (hR : ∀ a, R a a) {a b : α} (h : R a b)
    (before after : List α) : List.Forall₂ R (before ++ a :: after) (before ++ b :: after) := by
  have hsame (l : List α) : List.Forall₂ R l l := List.forall₂_same.mpr fun a _ => hR a
  exact List.rel_append (hsame before) (.cons h (hsame after))

variable {L : Likeness}

/-- What is put into one place of a node can be replaced by anything like it. -/
theorem Frame.like {frame : Node → Node} (hframe : Frame frame) {node other : Node}
    (h : Like L node other) : Like L (frame node) (frame other) := by
  have hbody := h.bodyStatements
  cases hframe with
  | statement span before after =>
      exact .block (.refl span) (.of_forall₂ (forall₂_middle .refl h before after))
  | alternate span test consequent =>
      exact .conditionalStatement (.refl span) (.refl test) (.refl _) (.of_rel (.some h))
  | _ => constructor <;> simp [h, hbody, forall₂_middle]

theorem Context.like {context : Node → Node} (hcontext : Context context) {node other : Node}
    (h : Like L node other) : Like L (context node) (context other) := by
  induction hcontext with
  | here => exact h
  | inside hframe hcontext ih => exact hframe.like ih

end Node

namespace Program

/-- The second script is the first one with one more empty statement, or with braces around a body
that has none, at any depth. -/
def Padded (program other : Program) : Prop :=
  ∃ context node padded, Node.Context context ∧ Node.Padded node padded ∧
    program.toNode = context node ∧ other.toNode = context padded

/-- An edit does not change what a script compiles to. -/
theorem Padded.compile_eq {program other : Program} (h : Padded program other) :
    program.compile = other.compile := by
  obtain ⟨context, node, padded, hcontext, hpadded, hprogram, hother⟩ := h
  have hlike : Node.Like .exact other.toNode program.toNode := by
    rw [hprogram, hother]
    exact hcontext.like hpadded.like
  cases hlike with
  | program _ hbody => exact (compile_like hbody).eq.symm

/-- **Braces and empty statements do not matter.** Scripts that differ by any number of edits, each
of which adds an empty statement to a block or braces to a body that has none, or takes them away,
compile alike. -/
theorem braces_irrelevant {program other : Program}
    (h : Relation.EqvGen Padded program other) : program.compile = other.compile := by
  induction h with
  | rel program other h => exact h.compile_eq
  | refl program => rfl
  | symm program other _ ih => exact ih.symm
  | trans program middle other _ _ ih ih' => exact ih.trans ih'

/-- The text `"int"`. -/
def intType : Node := .literal none none (.str "int") .null

/-- The statement `name = value;`. -/
def fieldSet (name : String) (value : Node) : Node :=
  .expressionStatement none (.assignment none "=" (.identifier none name) value)

/-- A script whose action is `apply(function(x = "int") body >> "int");`. -/
def applying (body : Node) : Program :=
  ⟨none, [fieldSet "input" intType, fieldSet "output" intType,
    fieldSet "action" (.function none [⟨.identifier none "input", none⟩]
      (.block none [.expressionStatement none (.call none (.identifier none "apply")
        [.binary none ">>" (.function none [⟨.identifier none "x", some intType⟩] body none none
          ⟨false, false, false⟩) intType])])
      none none ⟨false, false, false⟩)]⟩

/-- The condition `x < 9`. -/
def belowNine : Node :=
  .binary none "<" (.identifier none "x") (.literal none none (.int 9) .null)

/-- The statement `x++;`. -/
def countUp : Node := .expressionStatement none (.update none "++" (.identifier none "x") false)

/-- The body `{ while (x < 9) { x++; ; } }`. -/
def roomy : Node :=
  .block none [.whileLoop none belowNine (.block (some ⟨1, 0, 1, 9⟩) [countUp, .empty none])]

/-- The body `{ ; while (x < 9) x++; }`. -/
def terse : Node := .block none [.empty none, .whileLoop none belowNine countUp]

/-- The document of both scripts. -/
def countingDocument : Entries String Json :=
  [("input", .str "int"), ("output", .str "int"),
    ("action", .arr [.obj [("apply", .arr [.obj [("params", .arr [.obj [("x", .str "int")]]),
      ("ret", .str "int"),
      ("do", .arr [.obj [("while", .obj [("<", .arr [.str "x", .int 9])]),
        ("do", .arr [.obj [("set",
          .obj [("x", .obj [("+", .arr [.str "x", .int 1])])])]])]])]])]])]

/-- What stands in the body of the function stands in the script. -/
theorem context_applying {context : Node → Node} (h : Node.Context context) :
    Node.Context fun node => (applying (context node)).toNode := by
  have hfunction := Node.Context.inside (.functionBody none [⟨.identifier none "x", some intType⟩]
    none none ⟨false, false, false⟩) h
  have hcall := Node.Context.inside (.argument none (.identifier none "apply") [] [])
    (.inside (.binaryLeft none ">>" intType) hfunction)
  have haction := Node.Context.inside (.functionBody none [⟨.identifier none "input", none⟩]
    none none ⟨false, false, false⟩) (.inside (.statement none [] [])
      (.inside (.expression none) hcall))
  have hfield := Node.Context.inside (.expression none)
    (.inside (.assignedValue none "=" (.identifier none "action")) haction)
  exact Node.Context.inside (.programStatement none
    [fieldSet "input" intType, fieldSet "output" intType] []) hfield

theorem braces_irrelevant_counting :
    (applying roomy).compile = .ok countingDocument ∧
      Relation.EqvGen Padded (applying roomy) (applying terse) ∧
      (applying terse).compile = .ok countingDocument := by
  have hcompile : (applying roomy).compile = .ok countingDocument := by cbv
  -- both scripts come from the one with neither braces nor empty statements
  have hbraces : Padded (applying (.block none [.whileLoop none belowNine countUp]))
      (applying (.block none [.whileLoop none belowNine
        (.block (some ⟨1, 0, 1, 9⟩) [countUp])])) :=
    ⟨_, _, _, context_applying (.inside (.statement none [] []) .here),
      .whileBody none (some ⟨1, 0, 1, 9⟩) belowNine rfl, rfl, rfl⟩
  have hroomy : Padded (applying (.block none [.whileLoop none belowNine
      (.block (some ⟨1, 0, 1, 9⟩) [countUp])])) (applying roomy) :=
    ⟨_, _, _, context_applying (.inside (.statement none [] [])
      (.inside (.whileBody none belowNine) .here)),
      .empty (some ⟨1, 0, 1, 9⟩) none [countUp] [], rfl, rfl⟩
  have hterse : Padded (applying (.block none [.whileLoop none belowNine countUp]))
      (applying terse) :=
    ⟨_, _, _, context_applying .here, .empty none none [] _, rfl, rfl⟩
  have hedits : Relation.EqvGen Padded (applying roomy) (applying terse) :=
    .trans _ _ _ (.symm _ _ (.trans _ _ _ (.rel _ _ hbraces) (.rel _ _ hroomy))) (.rel _ _ hterse)
  exact ⟨hcompile, hedits, braces_irrelevant hedits ▸ hcompile⟩

end Program

end PfaScript
