import PfaScript.Proofs.Equation

/-!
# Induction over the compiler

The functions that compile expressions and statements call each other. A property of all of them is
a `Motive`: what is to be shown of the argument of each function. If the property passes from the
parts that a function descends into to the whole, construct by construct (`Motive.Closed`), it holds
of every tree. The recursion is the one of the functions themselves and is done here once, so that a
property of the compiler needs one lemma for each construct and no recursion of its own.
-/

namespace PfaScript

/-- What is to be shown of the arguments of the compiler's functions. -/
structure Motive where
  /-- Of an expression. -/
  term : Node → Prop
  /-- Of an expression where a function can be given too. -/
  operand : Node → Prop
  definition : Node → Prop
  /-- Of the elements of an array. -/
  elements : List (Option Node) → Prop
  /-- Of the entries of an object. -/
  entries : List Node → Prop
  operands : List Node → Prop
  /-- Of the two parts of a member access. -/
  accesses : Node → Node → Prop
  /-- Of the base of a member access. -/
  chain : Node → Prop
  /-- Of the arguments of a state access. -/
  state : List Node → Prop
  /-- Of the contents of a new value. -/
  contents : Node → Prop
  bindings : List (Declarator Node) → Prop
  assignments : List Node → Prop
  statement : Node → Prop
  statements : List Node → Prop
  body : Node → Prop
  alternatives : Option Node → Prop
  stepChange : Node → Prop
  steps : List Node → Prop

namespace Motive

/-- The property passes from the parts of every construct to the whole. -/
structure Closed (M : Motive) : Prop where
  literal (span : Option Span) (raw : Option Json) (value pattern : Json) :
    M.term (.literal span raw value pattern)
  identifier (span : Option Span) (name : String) : M.term (.identifier span name)
  member {span : Option Span} {base access : Node} {computed : Bool} :
    M.accesses base access → M.term (.member span base access computed)
  unary {span : Option Span} {operator : String} {argument : Node} {leading : Bool} :
    M.term argument → M.term (.unary span operator argument leading)
  binary {span : Option Span} {operator : String} {left right : Node} :
    M.term left → M.term right → M.term (.binary span operator left right)
  conditional {span : Option Span} {test consequent alternate : Node} :
    M.term test → M.term consequent → M.term alternate →
      M.term (.conditional span test consequent alternate)
  call {span : Option Span} {callee : Node} {arguments : List Node} :
    M.state arguments → M.operands arguments → M.term (.call span callee arguments)
  construct {span : Option Span} {callee : Node} {arguments : List Node} :
    (∀ contents ∈ arguments, M.contents contents) → M.term (.construct span callee arguments)
  declaration {span : Option Span} {declarators : List (Declarator Node)} {kind : String} :
    M.bindings declarators → M.term (.declaration span declarators kind)
  update (span : Option Span) (operator : String) (argument : Node) (leading : Bool) :
    M.term (.update span operator argument leading)
  assignment {span : Option Span} {operator : String} {left right : Node} :
    M.term right → M.operand right →
      (∀ place base access computed, left = .member place base access computed →
        M.accesses base access) →
      M.term (.assignment span operator left right)
  sequence {span : Option Span} {items : List Node} :
    M.assignments items → M.term (.sequence span items)
  block {span : Option Span} {body : List Node} : M.statements body → M.term (.block span body)
  notExpression {node : Node} : node.isExpression = false → M.term node
  operand {node : Node} : M.term node → M.definition node → M.operand node
  definition {node : Node} :
    (∀ span place params inner body id rest flags type,
      node = .binary span ">>" (.function place params (.block inner body) id rest flags) type →
      M.statements body) →
    M.definition node
  elements_nil : M.elements []
  elements_none {rest : List (Option Node)} : M.elements rest → M.elements (none :: rest)
  elements_some {node : Node} {rest : List (Option Node)} :
    M.term node → M.elements rest → M.elements (some node :: rest)
  entries_nil : M.entries []
  entries_cons {node : Node} {rest : List Node} :
    (∀ span key value kind computed, node = .property span key value kind computed →
      M.term value) →
    M.entries rest → M.entries (node :: rest)
  operands_nil : M.operands []
  operands_cons {node : Node} {rest : List Node} :
    M.operand node → M.operands rest → M.operands (node :: rest)
  accesses {base access : Node} : M.term access → M.chain base → M.accesses base access
  chain {node : Node} :
    M.term node →
      (∀ span base access computed, node = .member span base access computed →
        M.accesses base access) →
      M.chain node
  state {arguments : List Node} :
    (∀ span elements, .array span elements ∈ arguments → M.elements elements) →
      (∀ node ∈ arguments, M.operand node) → M.state arguments
  contents {node : Node} :
    (∀ place elements, node = .array place elements → M.elements elements) →
      (∀ place properties, node = .object place properties → M.entries properties) →
      M.contents node
  bindings_nil : M.bindings []
  bindings_cons {first : Declarator Node} {rest : List (Declarator Node)} :
    (∀ init, first.init = some init → M.term init) → M.bindings rest →
      M.bindings (first :: rest)
  assignments_nil : M.assignments []
  assignments_cons {node : Node} {rest : List Node} :
    (∀ span operator left right, node = .assignment span operator left right → M.term right) →
      M.assignments rest → M.assignments (node :: rest)
  expressionStatement {span : Option Span} {node : Node} :
    M.term node → M.statement (.expressionStatement span node)
  conditionalStatement {span : Option Span} {test consequent : Node} {alternate : Option Node} :
    M.term test → M.body consequent → M.alternatives alternate →
      M.statement (.conditionalStatement span test consequent alternate)
  whileLoop {span : Option Span} {test body : Node} :
    M.term test → M.body body → M.statement (.whileLoop span test body)
  doWhileLoop {span : Option Span} {test body : Node} :
    M.term test → M.body body → M.statement (.doWhileLoop span body test)
  forLoop {span : Option Span} {init test step : Option Node} {body : Node} :
    (∀ place declarators kind, init = some (.declaration place declarators kind) →
      M.bindings declarators) →
    (∀ node, test = some node → M.term node) →
    (∀ node, step = some node → M.stepChange node) →
    (∀ place parts, step = some (.sequence place parts) → M.steps parts) →
    M.body body → M.statement (.forLoop span init test step body)
  forInLoop {span : Option Span} {left right body : Node} :
    M.term right → M.body body → M.statement (.forInLoop span left right body)
  throwStatement (span : Option Span) (argument : Node) :
    M.statement (.throwStatement span argument)
  empty (span : Option Span) : M.statement (.empty span)
  notProper {node : Node} : node.isProperStatement = false → M.term node → M.statement node
  statements_nil : M.statements []
  statements_cons {node : Node} {rest : List Node} :
    M.statement node → M.statements rest → M.statements (node :: rest)
  body {node : Node} :
    M.statement node → (∀ span body, node = .block span body → M.statements body) → M.body node
  alternatives_none : M.alternatives none
  alternatives_some {node : Node} :
    M.body node →
      (∀ span test consequent alternate,
        node = .conditionalStatement span test consequent alternate →
        M.term test ∧ M.body consequent ∧ M.alternatives alternate) →
      M.alternatives (some node)
  stepChange {node : Node} :
    (∀ span operator left right, node = .assignment span operator left right → M.term right) →
      M.stepChange node
  steps_nil : M.steps []
  steps_cons {node : Node} {rest : List Node} :
    M.stepChange node → M.steps rest → M.steps (node :: rest)

namespace Closed

variable {M : Motive}

mutual

/-- A closed property holds of every expression. -/
theorem of_term (h : M.Closed) (node : Node) : M.term node := by
  cases node with
  | literal span raw value pattern => exact h.literal span raw value pattern
  | identifier span name => exact h.identifier span name
  | member span base access computed => exact h.member (h.of_accesses base access)
  | unary span operator argument leading => exact h.unary (h.of_term argument)
  | binary span operator left right => exact h.binary (h.of_term left) (h.of_term right)
  | conditional span test consequent alternate =>
      exact h.conditional (h.of_term test) (h.of_term consequent) (h.of_term alternate)
  | call span callee arguments => exact h.call (h.of_state arguments) (h.of_operands arguments)
  | construct span callee arguments =>
      refine h.construct fun contents hcontents => ?_
      have hsize := List.sizeOf_lt_of_mem hcontents
      exact h.of_contents contents
  | declaration span declarators kind => exact h.declaration (h.of_bindings declarators)
  | update span operator argument leading => exact h.update span operator argument leading
  | assignment span operator left right =>
      refine h.assignment (h.of_term right) (h.of_operand right) ?_
      intro place base access computed hleft
      exact h.of_accesses base access
  | sequence span items => exact h.sequence (h.of_assignments items)
  | block span body => exact h.block (h.of_statements body)
  | _ => exact h.notExpression rfl
termination_by (sizeOf node, 0)
decreasing_by
  all_goals
    subst_vars
    simp only [Prod.lex_def, Bool.sizeOf_eq_one, Node.member.sizeOf_spec, Node.unary.sizeOf_spec,
      Node.binary.sizeOf_spec, Node.conditional.sizeOf_spec, Node.call.sizeOf_spec,
      Node.construct.sizeOf_spec, Node.declaration.sizeOf_spec, Node.assignment.sizeOf_spec,
      Node.sequence.sizeOf_spec, Node.block.sizeOf_spec]
    omega

/-- Of every expression where a function can be given too. -/
theorem of_operand (h : M.Closed) (node : Node) : M.operand node :=
  h.operand (h.of_term node) (h.of_definition node)
termination_by (sizeOf node, 2)
decreasing_by all_goals simp [Prod.lex_def]

/-- Of every definition of a function; its body is a list of statements. -/
theorem of_definition (h : M.Closed) (node : Node) : M.definition node :=
  h.definition fun _ _ _ _ body _ _ _ _ _ => h.of_statements body
termination_by (sizeOf node, 1)
decreasing_by all_goals (subst_vars; simp +arith [Prod.lex_def])

/-- Of the elements of every array, holes passed over. -/
theorem of_elements (h : M.Closed) (elements : List (Option Node)) : M.elements elements := by
  match elements with
  | [] => exact h.elements_nil
  | none :: rest => exact h.elements_none (h.of_elements rest)
  | some node :: rest => exact h.elements_some (h.of_term node) (h.of_elements rest)
termination_by (sizeOf elements, 0)
decreasing_by all_goals simp +arith [Prod.lex_def]

/-- Of the entries of every object. -/
theorem of_entries (h : M.Closed) (properties : List Node) : M.entries properties := by
  match properties with
  | [] => exact h.entries_nil
  | node :: rest =>
      refine h.entries_cons ?_ (h.of_entries rest)
      intro span key value kind computed hnode
      exact h.of_term value
termination_by (sizeOf properties, 0)
decreasing_by all_goals (subst_vars; simp +arith [Prod.lex_def])

/-- Of the arguments of every call. -/
theorem of_operands (h : M.Closed) (nodes : List Node) : M.operands nodes := by
  match nodes with
  | [] => exact h.operands_nil
  | node :: rest => exact h.operands_cons (h.of_operand node) (h.of_operands rest)
termination_by (sizeOf nodes, 0)
decreasing_by all_goals simp +arith [Prod.lex_def]

/-- Of both parts of every member access, the path to its base included. -/
theorem of_accesses (h : M.Closed) (base access : Node) : M.accesses base access :=
  h.accesses (h.of_term access) (h.of_chain base)
termination_by (1 + sizeOf base + sizeOf access, 0)
decreasing_by all_goals simp +arith [Prod.lex_def]

/-- Of the base of every member access. -/
theorem of_chain (h : M.Closed) (node : Node) : M.chain node :=
  h.chain (h.of_term node) fun _ base access _ _ => h.of_accesses base access
termination_by (sizeOf node, 1)
decreasing_by all_goals (subst_vars; simp +arith [Prod.lex_def])

/-- Of the arguments of every state access. -/
theorem of_state (h : M.Closed) (arguments : List Node) : M.state arguments := by
  refine h.state (fun span elements harray => ?_) fun node hnode => ?_
  · have hsize : sizeOf elements < sizeOf arguments := by
      have hmem := List.sizeOf_lt_of_mem harray
      rw [Node.array.sizeOf_spec] at hmem
      omega
    exact h.of_elements elements
  · have hsize := List.sizeOf_lt_of_mem hnode
    exact h.of_operand node
termination_by (sizeOf arguments, 1)
decreasing_by all_goals exact .left _ _ hsize

/-- Of the contents of every new value. -/
theorem of_contents (h : M.Closed) (node : Node) : M.contents node :=
  h.contents (fun _ elements _ => h.of_elements elements)
    fun _ properties _ => h.of_entries properties
termination_by (sizeOf node, 1)
decreasing_by all_goals (subst_vars; simp +arith [Prod.lex_def])

/-- Of the declarators of every declaration. -/
theorem of_bindings (h : M.Closed) (declarators : List (Declarator Node)) :
    M.bindings declarators := by
  match declarators with
  | [] => exact h.bindings_nil
  | ⟨span, target, init⟩ :: rest =>
      refine h.bindings_cons ?_ (h.of_bindings rest)
      intro value hvalue
      exact h.of_term value
termination_by (sizeOf declarators, 0)
decreasing_by all_goals (subst_vars; simp +arith [Prod.lex_def])

/-- Of the assignments of every sequence. -/
theorem of_assignments (h : M.Closed) (items : List Node) : M.assignments items := by
  match items with
  | [] => exact h.assignments_nil
  | node :: rest =>
      refine h.assignments_cons ?_ (h.of_assignments rest)
      intro span operator left right hnode
      exact h.of_term right
termination_by (sizeOf items, 0)
decreasing_by all_goals (subst_vars; simp +arith [Prod.lex_def])

/-- Of every list of statements. -/
theorem of_statements (h : M.Closed) (nodes : List Node) : M.statements nodes := by
  match nodes with
  | [] => exact h.statements_nil
  | node :: rest => exact h.statements_cons (h.of_statement node) (h.of_statements rest)
termination_by (sizeOf nodes, 0)
decreasing_by all_goals simp +arith [Prod.lex_def]

/-- Of every statement. What is no proper statement is compiled as an expression. -/
theorem of_statement (h : M.Closed) (node : Node) : M.statement node := by
  by_cases hproper : node.isProperStatement
  · cases node with
    | expressionStatement span inner => exact h.expressionStatement (h.of_term inner)
    | conditionalStatement span test consequent alternate =>
        exact h.conditionalStatement (h.of_term test) (h.of_body consequent)
          (h.of_alternatives alternate)
    | whileLoop span test body => exact h.whileLoop (h.of_term test) (h.of_body body)
    | doWhileLoop span body test => exact h.doWhileLoop (h.of_term test) (h.of_body body)
    | forLoop span init test step body =>
        refine h.forLoop ?_ (fun node hnode => h.of_term node)
          (fun node hnode => h.of_stepChange node) (fun place parts hparts => h.of_steps parts)
          (h.of_body body)
        intro place declarators kind hinit
        exact h.of_bindings declarators
    | forInLoop span left right body => exact h.forInLoop (h.of_term right) (h.of_body body)
    | throwStatement span argument => exact h.throwStatement span argument
    | empty span => exact h.empty span
    | _ => nomatch hproper
  · exact h.notProper (Bool.not_eq_true _ ▸ hproper) (h.of_term node)
termination_by (sizeOf node, 1)
decreasing_by all_goals (subst_vars; simp +arith [Prod.lex_def])

/-- Of every body of a loop or a branch. -/
theorem of_body (h : M.Closed) (node : Node) : M.body node :=
  h.body (h.of_statement node) fun _ body _ => h.of_statements body
termination_by (sizeOf node, 2)
decreasing_by all_goals (subst_vars; simp +arith [Prod.lex_def])

/-- Of every alternative, along the whole chain. -/
theorem of_alternatives (h : M.Closed) (alternate : Option Node) : M.alternatives alternate := by
  match alternate with
  | none => exact h.alternatives_none
  | some node =>
      refine h.alternatives_some (h.of_body node) ?_
      intro span test consequent alternate hnode
      exact ⟨h.of_term test, h.of_body consequent, h.of_alternatives alternate⟩
termination_by (sizeOf alternate, 3)
decreasing_by all_goals (subst_vars; simp +arith [Prod.lex_def])

/-- Of every step of a loop. -/
theorem of_stepChange (h : M.Closed) (node : Node) : M.stepChange node :=
  h.stepChange fun _ _ _ right _ => h.of_term right
termination_by (sizeOf node, 0)
decreasing_by all_goals (subst_vars; simp +arith [Prod.lex_def])

/-- Of the steps of every loop. -/
theorem of_steps (h : M.Closed) (nodes : List Node) : M.steps nodes := by
  match nodes with
  | [] => exact h.steps_nil
  | node :: rest => exact h.steps_cons (h.of_stepChange node) (h.of_steps rest)
termination_by (sizeOf nodes, 0)
decreasing_by all_goals simp +arith [Prod.lex_def]

end

end Closed

end Motive

end PfaScript
