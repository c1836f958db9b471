import PfaScript.Compile.Document
import PfaScript.Proofs.Outcome

/-!
# Equations of the compiler

The compiler's functions in a form that is easier to reason about than their definitions: a
conditional statement is a choice to which an `else` may be added, and a `for` loop is a sequence of
its four parts.
-/

namespace PfaScript

/-- The branches of a conditional statement as one choice; a single branch stands for itself. -/
def choice (span : Option Span) (first : Entries String Json)
    (others : List (Entries String Json)) : Entries String Json :=
  match others with
  | [] => first
  | _ => taggedEntries span [("cond", .arr ((first :: others).map Json.obj))]

@[simp] theorem choice_nil (span : Option Span) (first : Entries String Json) :
    choice span first [] = first := rfl

theorem conditionalTerm_some (span : Option Span) (first : Entries String Json)
    (others : List (Entries String Json)) (body : List Json) :
    conditionalTerm span first others (some body) =
      .obj ((choice span first others).insert "else" (.arr body)) := rfl

/-- The term of a literal: a text is wrapped, all else stands for itself. -/
def literalTerm (span : Option Span) : Json → Json
  | .str text => tagged span [("string", .str text)]
  | value => value

namespace Node

theorem term_literal (span : Option Span) (raw : Option Json) (value pattern : Json) :
    term (.literal span raw value pattern) =
      if pattern.isText then .error ⟨.patternExpression, span⟩
      else .ok (literalTerm span value) := by
  cases value <;> simp only [term, literalTerm]

/-- Whether a node is an expression, or stands for one in a list of statements. -/
def isExpression : Node → Bool
  | .literal .. | .identifier .. | .member .. | .unary .. | .binary .. | .conditional ..
  | .call .. | .construct .. | .declaration .. | .update .. | .assignment .. | .sequence ..
  | .block .. => true
  | _ => false

theorem term_of_not_isExpression {node : Node} (h : node.isExpression = false) :
    term node = .error ⟨.construct node.tag, node.span⟩ := by
  cases node <;> simp [isExpression] at h <;> simp only [term]

theorem term_construct_of_not {name : String}
    (h : ¬ (name = "Array" ∨ name = "Map" ∨ name = "Record")) (span place : Option Span)
    (arguments : List Node) :
    term (.construct span (.identifier place name) arguments) = .error ⟨.constructor, span⟩ := by
  rcases arguments with _ | ⟨first, _ | ⟨second, _ | ⟨third, rest⟩⟩⟩ <;>
    simp only [term, if_neg h]

/-- A node that does not define a function has no definition. -/
theorem definition_of_not_isDefinition {node : Node} (h : node.isDefinition = false) :
    definition node = .error ⟨.functionForm, node.span⟩ := by
  rw [definition]
  · rintro span place params inner body id rest flags type rfl
    simp [isDefinition] at h
  · rintro span place params body id rest flags type rfl
    simp [isDefinition] at h

/-! ### Attribute paths -/

/-- Whether a node is a member access. -/
def isMember : Node → Bool
  | .member .. => true
  | _ => false

/-- The step of an attribute path that a member access adds. -/
def accessStep (span : Option Span) (access : Node) (computed : Bool) : Except Fault Json :=
  if computed then term access
  else match access with
    | .identifier place name => .ok (tagged place [("string", .str name)])
    | _ => .error ⟨.memberAccess, span⟩

/-- A member access adds its step to the path of its base. -/
theorem accesses_eq (span : Option Span) (base access : Node) (computed : Bool) :
    accesses span base access computed = (do
      let step ← accessStep span access computed
      let (root, path) ← chain base
      return (root, path ++ [step])) := by
  unfold accessStep
  cases computed <;> cases access <;> simp only [accesses] <;> rfl

theorem chain_of_not_isMember {node : Node} (h : node.isMember = false) :
    chain node = (do return (← term node, [])) := by
  cases node with
  | member span base access computed => simp [isMember] at h
  | _ => simp only [chain]

/-! ### Statements -/

/-- Whether a node is a statement. -/
def isStatement : Node → Bool
  | .expressionStatement .. | .conditionalStatement .. | .whileLoop .. | .doWhileLoop ..
  | .forLoop .. | .forInLoop .. | .throwStatement .. | .empty .. | .declaration ..
  | .assignment .. | .sequence .. | .block .. => true
  | _ => false

theorem statement_of_not_isStatement {node : Node} (h : node.isStatement = false) :
    statement node = .error ⟨.statement node.tag, node.span⟩ := by
  cases node <;> simp [isStatement] at h <;> simp only [statement]

/-- Whether a node is a statement that is not an expression. -/
def isProperStatement : Node → Bool
  | .expressionStatement .. | .conditionalStatement .. | .whileLoop .. | .doWhileLoop ..
  | .forLoop .. | .forInLoop .. | .throwStatement .. | .empty .. => true
  | _ => false

/-- An expression that is a statement has the same term as both. -/
theorem term_of_statement_ok {node : Node} {v : Json} (hproper : node.isProperStatement = false)
    (h : statement node = .ok v) : term node = .ok v := by
  cases node <;> simp [isProperStatement] at hproper <;> simp [statement] at h <;> exact h

/-- Whether a node is a block. -/
def isBlock : Node → Bool
  | .block .. => true
  | _ => false

/-- Whether a node is a conditional statement. -/
def isConditional : Node → Bool
  | .conditionalStatement .. => true
  | _ => false

theorem statementBody_of_not_isBlock {node : Node} (h : node.isBlock = false) :
    statementBody node = (do
      let only ← statement node
      return if only.isNull then [] else [only]) := by
  cases node with
  | block span body => simp [isBlock] at h
  | _ => simp only [statementBody]

theorem alternatives_of_not_isConditional {node : Node} (h : node.isConditional = false) :
    alternatives (some node) = (do return ([], some (← statementBody node))) := by
  cases node with
  | conditionalStatement span test consequent alternate => simp [isConditional] at h
  | _ => simp only [alternatives]

/-- The condition of a `for` loop; a missing one always holds. -/
def loopTest : Option Node → Except Fault Json
  | some test => test.term
  | none => .ok (.bool true)

/-- The place that a faulty step of a `for` loop is blamed on. -/
def stepPlace (span : Option Span) (step : Option Node) : Option Span :=
  (step.map Node.span).getD span

/-- A `for` loop is compiled part by part: its variables, its steps, its condition, its body. -/
theorem statement_forLoop (span place : Option Span) (declarators : List (Declarator Node))
    (kind : String) (test step : Option Node) (body : Node) :
    statement (.forLoop span (some (.declaration place declarators kind)) test step body) = (do
      let bound ← bindings declarators
      if (stepParts step).isEmpty || !(stepParts step).all isStep then
        .error ⟨.forStep, stepPlace span step⟩
      else
        let changes ← steps (stepParts step)
        let test ← loopTest test
        let body ← statementBody body
        return tagged span [("for", .obj (Entries.ofList bound)), ("while", test),
          ("step", .obj (Entries.ofList changes)), ("do", .arr body)]) := by
  rw [statement]
  rcases step with _ | node
  · rfl
  · rcases test with _ | test <;> cases node <;> rfl

end Node

end PfaScript
