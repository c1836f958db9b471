import PfaScript.Proofs.Entries
import PfaScript.Proofs.Gathering
import PfaScript.Proofs.Induction

/-!
# No breach is reached

The compiler written with partial operations (`Guarded.compile`) does what the compiler does: it has
the same faults, and no failure beside them. Main result:

* `Program.only_faults`: with partial operations, compiling a program ends in the document or in the
  fault that the compiler ends in, so that none of the operations is ever applied outside its
  domain; and the two lists in which the parameters of a function are read pair up to the parameters
  that the loader gives it.

The proof is an induction over the compiler with the motive `Guarded.fidelity`. Step by step both
compilers do the same (`Guarded.bind_eq_lift`), and for each construct the checks before a partial
operation put its argument into its domain. Only the steps of a `for` loop need more than that:
`Guarded.stepChange_eq` says that the term of a node that passes the test for a step sets exactly
the variable that the compiler takes from it.
-/

namespace PfaScript

namespace Guarded

variable {ε : Type}

/-- A sequence does what another one does if its steps do. -/
theorem bind_eq_lift {α β : Type} {x : Except (Failure ε) α} {y : Except ε α}
    {f : α → Except (Failure ε) β} {g : α → Except ε β} (hx : x = lift y)
    (hf : ∀ a, f a = lift (g a)) : (x >>= f) = lift (y >>= g) := by
  rw [hx, lift_bind, funext hf]

/-! ### Partial operations in their domain -/

/-- The operators `++` and `--` begin with the function that they apply. -/
theorem firstCharacter_eq {operator function : String}
    (h : updateFunction? operator = some function) :
    firstCharacter operator = (.ok function : Except (Failure ε) String) := by
  unfold updateFunction? at h
  split at h
  · obtain rfl := Option.some.inj h
    rfl
  · obtain rfl := Option.some.inj h
    rfl
  · contradiction

/-- The only entry of a mapping is found beside the marker. -/
theorem entryAt_tagged {key : String} (h : key ≠ markerKey) (span : Option Span) (value : Json) :
    entryAt key (tagged span [(key, value)]) = (.ok value : Except (Failure ε) Json) := by
  have hget : (taggedEntries span [(key, value)]).get? key = some value := by
    cases span with
    | none => simp [taggedEntries, marker, Entries.insert, Entries.get?]
    | some span => simp [taggedEntries, marker, Entries.insert, Entries.get?, h.symm]
  rw [tagged, entryAt, hget]

/-- A node that is a text has the text that is read. -/
theorem textOf_eq {node : Node} {text : String} (h : node.text? = some text) :
    textOf node = (.ok text : Except (Failure ε) String) := by
  unfold Node.text? at h
  split at h
  · obtain rfl := Option.some.inj h
    rfl
  · contradiction

/-! ### Constants -/

mutual

theorem constant_eq (node : Node) : constant node = lift node.constant := by
  cases node with
  | literal span raw value pattern =>
      rw [constant, Node.constant]
      split <;> rfl
  | unary span operator argument leading =>
      rw [constant, Node.constant]
      cases negatedLiteral? operator argument <;> rfl
  | array span elements =>
      rw [constant, Node.constant]
      exact bind_eq_lift (constants_eq span elements) fun _ => rfl
  | object span properties =>
      rw [constant, Node.constant]
      exact bind_eq_lift (constantEntries_eq properties) fun _ => rfl
  | _ =>
      simp only [constant, Node.constant]
      rfl
termination_by sizeOf node

theorem constants_eq (span : Option Span) (elements : List (Option Node)) :
    constants span elements = lift (Node.constants span elements) := by
  match elements with
  | [] => simp only [constants, Node.constants, lift_ok]
  | none :: rest => simp only [constants, Node.constants, lift_error]
  | some element :: rest =>
      rw [constants, Node.constants]
      exact bind_eq_lift (constant_eq element) fun _ =>
        bind_eq_lift (constants_eq span rest) fun _ => rfl
termination_by sizeOf elements

theorem constantEntries_eq (properties : List Node) :
    constantEntries properties = lift (Node.constantEntries properties) := by
  match properties with
  | [] => simp only [constantEntries, Node.constantEntries, lift_ok]
  | node :: rest =>
      have hrest := constantEntries_eq rest
      cases node with
      | property span key value kind computed =>
          have hvalue := constant_eq value
          rw [constantEntries, Node.constantEntries]
          exact bind_eq_lift rfl fun _ => bind_eq_lift hvalue fun _ =>
            bind_eq_lift hrest fun _ => rfl
      | _ => simp only [constantEntries, Node.constantEntries, keyOf, error_bind, lift_error]
termination_by sizeOf properties

end

theorem typedParams_eq (params : List (Param Node)) :
    typedParams params = lift (Node.typedParams params) := by
  fun_induction Node.typedParams params with
  | case1 => rfl
  | case2 span name type rest ih =>
      rw [typedParams]
      exact bind_eq_lift (constant_eq type) fun _ => bind_eq_lift ih fun _ => rfl
  | case3 span name rest => rfl
  | case4 target initial rest htyped huntyped =>
      rw [typedParams]
      · rfl
      · exact htyped
      · exact huntyped

/-! ### Assignments -/

/-- Every compound assignment that is known has its function. -/
theorem combined_eq {operator : String} (h : isAssignmentOperator operator) (span : Option Span)
    (target value : Json) :
    combined span operator target value = lift (assigned span operator target value) := by
  unfold combined assigned functionAt
  by_cases hplain : operator = "="
  · subst hplain
    rfl
  · rw [if_neg hplain]
    cases hfunction : compoundFunction? operator with
    | none => simp [isAssignmentOperator, hplain, hfunction] at h
    | some function => by_cases hvalue : value.isFunctionDefinition <;> simp [hvalue]

theorem update_eq (span : Option Span) (operator : String) (argument : Node) (leading : Bool) :
    term (.update span operator argument leading) =
      lift (Node.term (.update span operator argument leading)) := by
  cases argument with
  | identifier place name =>
      rw [term, Node.term, updated]
      cases hfunction : updateFunction? operator with
      | none =>
          have hother : ¬ (operator = "++" ∨ operator = "--") := by
            rintro (rfl | rfl) <;> simp [updateFunction?] at hfunction
          rw [if_neg hother]
          rfl
      | some function =>
          have hknown : operator = "++" ∨ operator = "--" := by
            unfold updateFunction? at hfunction
            split at hfunction <;> simp_all
          rw [if_pos hknown, firstCharacter_eq hfunction]
          rfl
  | _ =>
      simp only [term, Node.term]
      rfl

/-! ### What is to be shown -/

/-- The guarded compiler does what the compiler does. -/
def fidelity : Motive where
  term node := term node = lift node.term
  operand node := operand node = lift node.operand
  definition node := definition node = lift node.definition
  elements elements := elementTerms elements = lift (Node.elementTerms elements)
  entries properties := entryTerms properties = lift (Node.entryTerms properties)
  operands nodes := operands nodes = lift (Node.operands nodes)
  accesses base access := ∀ span computed,
    accesses span base access computed = lift (Node.accesses span base access computed)
  chain node := chain node = lift node.chain
  state arguments := ∀ span store most,
    stateAccess span store most arguments = lift (Node.stateAccess span store most arguments)
  contents node := ∀ span name type, (name = "Array" ∨ name = "Map" ∨ name = "Record") →
    newValue span name node type = lift (Node.newValue span name node type)
  bindings declarators := bindings declarators = lift (Node.bindings declarators)
  assignments items := assignments items = lift (Node.assignments items)
  statement node := statement node = lift node.statement
  statements nodes := statements nodes = lift (Node.statements nodes)
  body node := statementBody node = lift node.statementBody
  alternatives alternate := alternatives alternate = lift (Node.alternatives alternate)
  stepChange node := node.isStep →
    term node = lift (do return tagged node.span [("set", .obj [← node.stepChange])])
  steps nodes := nodes.all Node.isStep → ∀ sofar,
    steps sofar nodes = lift (do return Entries.update sofar (← Node.steps nodes))

/-! ### Expressions -/

section expressions

variable {span : Option Span} {node left right : Node} {nodes : List Node}

/-- A call of `doc` reads its only argument after it has counted its arguments and tested the one
that there is. -/
theorem docTerm_eq (span : Option Span) (arguments : List Node) :
    docTerm span arguments = lift (match arguments.map Node.text? with
      | [some text] => .ok (tagged span [("doc", .str text)])
      | _ => .error ⟨.docArguments, span⟩) := by
  match arguments with
  | [] => rfl
  | [argument] =>
      cases h : argument.text? with
      | none => simp [docTerm, itemAt, h]
      | some text => simp [docTerm, itemAt, h, textOf_eq h]
  | _ :: _ :: _ => simp [docTerm]

theorem call_eq (hstate : fidelity.state nodes) (hoperands : fidelity.operands nodes) :
    fidelity.term (.call span node nodes) := by
  change term _ = lift _
  rw [term, Node.term]
  refine bind_eq_lift rfl fun name => ?_
  by_cases hcell : name = "cell"
  · rw [if_pos hcell, if_pos hcell]
    exact hstate span .cells 3
  by_cases hpool : name = "pool"
  · rw [if_neg hcell, if_pos hpool, if_neg hcell, if_pos hpool]
    exact hstate span .pools 4
  rw [if_neg hcell, if_neg hpool, if_neg hcell, if_neg hpool]
  by_cases hdoc : name = "doc"
  · rw [if_pos hdoc, if_pos hdoc]
    exact docTerm_eq span nodes
  · rw [if_neg hdoc, if_neg hdoc]
    exact bind_eq_lift hoperands fun _ => rfl

/-- A constructor takes its two arguments apart after it has counted them. -/
theorem construct_eq (h : ∀ contents ∈ nodes, fidelity.contents contents) :
    fidelity.term (.construct span node nodes) := by
  change term _ = lift _
  cases node with
  | identifier place name =>
      by_cases hname : name = "Array" ∨ name = "Map" ∨ name = "Record"
      · rcases nodes with _ | ⟨contents, _ | ⟨type, _ | ⟨third, rest⟩⟩⟩
        case cons.cons.nil =>
          simp only [term, Node.term, if_pos hname]
          exact h contents List.mem_cons_self span name type hname
        all_goals
          simp only [term, Node.term, if_pos hname]
          rfl
      · simp only [Node.term_construct_of_not hname, term, if_neg hname, lift_error]
  | _ => simp only [term, Node.term, lift_error]

theorem assignment_eq {operator : String} (hterm : fidelity.term right)
    (hoperand : fidelity.operand right)
    (haccesses : ∀ place base access computed, left = .member place base access computed →
      fidelity.accesses base access) :
    fidelity.term (.assignment span operator left right) := by
  change term _ = lift _
  by_cases hoperator : isAssignmentOperator operator
  · cases left with
    | identifier place name =>
        simp only [term, Node.term, hoperator, Bool.not_true, Bool.false_eq_true, if_false]
        exact bind_eq_lift hterm fun _ => bind_eq_lift (combined_eq hoperator ..) fun _ => rfl
    | member place base access computed =>
        simp only [term, Node.term, hoperator, Bool.not_true, Bool.false_eq_true, if_false]
        exact bind_eq_lift (haccesses _ _ _ _ rfl _ _) fun _ => bind_eq_lift hoperand fun _ =>
          bind_eq_lift (combined_eq hoperator ..) fun _ => rfl
    | _ => simp [term, Node.term, hoperator]
  · cases left <;> simp [term, Node.term, hoperator]

/-- The body of a function is read after the test that it is a block. -/
theorem definition_eq
    (h : ∀ span place params inner body id rest flags type,
      node = .binary span ">>" (.function place params (.block inner body) id rest flags) type →
      fidelity.statements body) : fidelity.definition node := by
  change definition _ = lift _
  by_cases hdefinition : node.isDefinition
  · unfold Node.isDefinition at hdefinition
    split at hdefinition
    · rename_i span place params body id rest flags type
      cases body with
      | block inner body =>
          have hbody := h span place params inner body id rest flags type rfl
          rw [definition, Node.definition]
          by_cases hplain : Node.isPlainFunction id rest flags
          · simp only [hplain, Node.isBlock, Bool.and_self, if_true, pairUp_map, ok_bind, bodyOf]
            exact bind_eq_lift (typedParams_eq params) fun _ => bind_eq_lift (constant_eq type)
              fun _ => bind_eq_lift hbody fun _ => rfl
          · simp [hplain]
      | _ => simp [definition, Node.definition, Node.isBlock]
    · contradiction
  · simp only [Node.definition_of_not_isDefinition (Bool.not_eq_true _ ▸ hdefinition)]
    rw [definition]
    · rfl
    · rintro span place params body id rest flags type rfl
      simp [Node.isDefinition] at hdefinition

/-! ### Parts of expressions -/

theorem accesses_eq {base access : Node} (haccess : fidelity.term access)
    (hchain : fidelity.chain base) : fidelity.accesses base access := by
  intro span computed
  have hstep : (if computed then term access else namedStep span access) =
      lift (Node.accessStep span access computed) := by
    unfold Node.accessStep
    cases computed with
    | true => exact haccess
    | false => cases access <;> rfl
  rw [Node.accesses_eq, accesses]
  cases computed <;> exact bind_eq_lift hstep fun _ => bind_eq_lift hchain fun _ => rfl

theorem chain_eq (hterm : fidelity.term node)
    (haccesses : ∀ span base access computed, node = .member span base access computed →
      fidelity.accesses base access) : fidelity.chain node := by
  change chain _ = lift _
  cases node with
  | member span base access computed =>
      rw [chain, Node.chain]
      exact haccesses span base access computed rfl span computed
  | _ =>
      simp only [chain, Node.chain]
      exact bind_eq_lift hterm fun _ => rfl

theorem statePath_eq {store : Store} {rest : List Node}
    (h : ∀ span elements, node = .array span elements → fidelity.elements elements) :
    statePath store node = lift (Node.statePath store (node :: rest)) := by
  cases node with
  | array span elements =>
      rw [statePath, Node.statePath]
      by_cases hholes : elements.any Option.isNone
      · simp [hholes]
      · rw [if_neg hholes, if_neg hholes]
        exact bind_eq_lift (h span elements rfl) fun _ => rfl
  | _ => simp only [statePath, Node.statePath, lift_error]

theorem pathEntry_eq {store : Store} {slot : Node} {rest : List Node}
    (h : ∀ span elements, .array span elements ∈ rest → fidelity.elements elements) :
    pathEntry store (slot :: rest) = lift (Node.statePath store rest) := by
  match rest with
  | [] => simp [pathEntry, Node.statePath]
  | path :: others =>
      rw [pathEntry, if_pos (by simp)]
      refine statePath_eq fun span elements hpath => h span elements ?_
      rw [hpath]
      exact List.mem_cons_self

theorem changeEntries_eq {slot : Node} {rest : List Node}
    (h : ∀ node ∈ rest, operand node = lift node.operand) :
    changeEntries (slot :: rest) = lift (Node.stateChanges rest) := by
  match rest with
  | [] => simp [changeEntries, Node.stateChanges]
  | [path] => simp [changeEntries, Node.stateChanges]
  | [path, value] =>
      have hvalue := h value (by simp)
      simp [changeEntries, Node.stateChanges, operandAt, itemAt, lift_bind, hvalue]
  | [path, value, initial] =>
      have hvalue := h value (by simp)
      have hinitial := h initial (by simp)
      simp [changeEntries, Node.stateChanges, operandAt, itemAt, lift_bind, hvalue, hinitial]
  | path :: value :: third :: fourth :: others =>
      have hvalue := h value (by simp)
      simp [changeEntries, Node.stateChanges, operandAt, itemAt, lift_bind, hvalue]

/-- The arguments of a state access are there as far as their number says. -/
theorem state_eq (helements : ∀ span elements, .array span elements ∈ nodes →
      fidelity.elements elements)
    (hoperand : ∀ node ∈ nodes, fidelity.operand node) : fidelity.state nodes := by
  intro span store most
  match nodes with
  | [] => simp [stateAccess, Node.stateAccess]
  | slot :: rest =>
      simp only [stateAccess, Node.stateAccess]
      by_cases hmost : most < (slot :: rest).length
      · rw [if_pos (Or.inr hmost), if_pos hmost]
        rfl
      · rw [if_neg (by simpa using hmost), if_neg hmost]
        simp only [itemAt, ok_bind]
        cases slot.name? with
        | none => rfl
        | some name =>
            refine bind_eq_lift (pathEntry_eq fun span elements h => ?_) fun _ =>
              bind_eq_lift (changeEntries_eq fun node h => ?_) fun _ => rfl
            · exact helements span elements (List.mem_cons_of_mem _ h)
            · exact hoperand node (List.mem_cons_of_mem _ h)

/-- Contents that fail the test of a new value are refused. -/
theorem newValue_refused (span : Option Span) {name : String} {test : Node → Bool} {node : Node}
    (htest : contentsTest name = (.ok test : Except (Failure Fault) _))
    (hnode : test node = false) (type : Node) :
    newValue span name node type = .error (.fault
      ⟨.constructorContents name (if name = "Array" then "square" else "curly"), node.span⟩) := by
  rw [newValue, htest, ok_bind, hnode]
  rfl

/-- What is neither tested to be an array nor one is tested to be an object and is one. -/
theorem contents_eq
    (helements : ∀ place elements, node = .array place elements → fidelity.elements elements)
    (hentries : ∀ place properties, node = .object place properties →
      fidelity.entries properties) : fidelity.contents node := by
  intro span name type hname
  cases node with
  | array place elements =>
      have helements : elementTerms elements = lift _ := helements place elements rfl
      rcases hname with rfl | rfl | rfl
      · rw [newValue, Node.newValue]
        simp only [contentsTest, ok_bind, isArray, newContents]
        by_cases htype : type.isTypeLiteral
        · by_cases hholes : elements.any Option.isNone
          · simp [htype, hholes]
          · simp [htype, hholes, lift_bind, helements, constant_eq]
        · simp [htype]
      all_goals simp [newValue, Node.newValue, contentsTest, isObject, Node.span]
  | object place properties =>
      have hentries : entryTerms properties = lift _ := hentries place properties rfl
      rcases hname with rfl | hname
      · simp [newValue, Node.newValue, contentsTest, isArray, Node.span]
      · rw [newValue, Node.newValue]
        rcases hname with rfl | rfl
        all_goals
          simp only [contentsTest, ok_bind, isObject, newContents]
          by_cases htype : type.isTypeLiteral
          · simp [htype, lift_bind, hentries, constant_eq, propertiesOf]
          · simp [htype]
  | _ =>
      rw [Node.newValue]
      · rcases hname with rfl | rfl | rfl <;> exact newValue_refused span rfl rfl type
      all_goals simp

end expressions

/-! ### Loops

The variables of a `for` loop are read out of the term of its declaration, and those that its steps
change out of the terms of the steps.
-/

section loops

variable {node : Node} {nodes : List Node} {step : Option Node}

/-- A node that passes the test for a step has a term that sets one variable. -/
theorem stepChange_eq
    (h : ∀ span operator left right, node = .assignment span operator left right →
      fidelity.term right) : fidelity.stepChange node := by
  intro hstep
  unfold Node.isStep at hstep
  split at hstep
  · rename_i span operator place name right
    have hright : term right = lift right.term := h span operator _ right rfl
    rw [term, Node.stepChange]
    simp only [hstep, Bool.not_true, Bool.false_eq_true, if_false, hright, combined_eq hstep,
      lift_bind, bind_assoc]
    rfl
  · rename_i span operator place name leading
    obtain ⟨function, hfunction⟩ := Option.isSome_iff_exists.mp hstep
    rw [update_eq, Node.term, Node.stepChange, updated, updated, hfunction]
    rfl
  · contradiction

theorem steps_nil_eq : fidelity.steps [] := by
  intro _ sofar
  rw [steps, Node.steps]
  rfl

theorem steps_cons_eq (hfirst : fidelity.stepChange node) (hrest : fidelity.steps nodes) :
    fidelity.steps (node :: nodes) := by
  intro hsteps sofar
  simp only [List.all_cons, Bool.and_eq_true] at hsteps
  rw [steps, Node.steps, hfirst hsteps.1]
  simp only [lift_bind, bind_assoc]
  congr 1
  funext change
  simp only [pure_eq_ok, lift_ok, ok_bind, entryAt_tagged (by decide : "set" ≠ markerKey),
    entriesOf]
  rw [hrest hsteps.2, lift_bind]
  rfl

/-- The steps of a `for` loop are one step or a sequence of steps. -/
theorem steps_stepParts_eq (hone : ∀ node, step = some node → fidelity.stepChange node)
    (hmany : ∀ place parts, step = some (.sequence place parts) → fidelity.steps parts) :
    fidelity.steps (Node.stepParts step) := by
  rcases step with _ | node
  · exact steps_nil_eq
  · cases node with
    | sequence place parts => exact hmany place parts rfl
    | _ => exact steps_cons_eq (hone _ rfl) steps_nil_eq

/-- The condition of a `for` loop; a missing one always holds. -/
def loopTest : Option Node → Except (Failure Fault) Json
  | some test => term test
  | none => .ok (.bool true)

/-- A `for` loop is compiled part by part: its variables, its steps, its condition, its body. -/
theorem statement_forLoop (span place : Option Span) (declarators : List (Declarator Node))
    (kind : String) (test step : Option Node) (body : Node) :
    statement (.forLoop span (some (.declaration place declarators kind)) test step body) = (do
      let declared ← term (.declaration place declarators kind)
      let bound ← entryAt "let" declared
      if (Node.stepParts step).isEmpty || !(Node.stepParts step).all Node.isStep then
        .error (.fault ⟨.forStep, Node.stepPlace span step⟩)
      else
        let changes ← steps [] (Node.stepParts step)
        let test ← loopTest test
        let body ← statementBody body
        return tagged span [("for", bound), ("while", test), ("step", .obj changes),
          ("do", .arr body)]) := by
  rw [statement]
  rcases step with _ | node
  · rfl
  · rcases test with _ | test <;> cases node <;> rfl

/-- The term of the declaration of a `for` loop has the variables that are read out of it. -/
theorem forLoop_eq {span : Option Span} {init test : Option Node} {body : Node}
    (hinit : ∀ place declarators kind, init = some (.declaration place declarators kind) →
      fidelity.bindings declarators)
    (htest : ∀ node, test = some node → fidelity.term node)
    (hone : ∀ node, step = some node → fidelity.stepChange node)
    (hmany : ∀ place parts, step = some (.sequence place parts) → fidelity.steps parts)
    (hbody : fidelity.body body) : fidelity.statement (.forLoop span init test step body) := by
  change statement _ = lift _
  have htest : loopTest test = lift (Node.loopTest test) := by
    cases test with
    | none => rfl
    | some node => exact htest node rfl
  rcases init with _ | node
  · simp only [statement, Node.statement]
    rfl
  cases node with
  | declaration place declarators kind =>
      simp only [statement_forLoop, Node.statement_forLoop, term, bind_assoc]
      refine bind_eq_lift (hinit place declarators kind rfl) fun bound => ?_
      simp only [pure_eq_ok, ok_bind, entryAt_tagged (by decide : "let" ≠ markerKey)]
      by_cases hsteps : (Node.stepParts step).all Node.isStep
      · by_cases hempty : (Node.stepParts step).isEmpty
        · simp [hempty]
        · have hbody : statementBody body = lift body.statementBody := hbody
          simp only [hempty, hsteps, Bool.not_true, Bool.or_self, Bool.false_eq_true, if_false,
            steps_stepParts_eq hone hmany hsteps [], htest, hbody, lift_bind, bind_assoc]
          rfl
      · simp [hsteps]
  | _ =>
      simp only [statement, Node.statement]
      rfl

end loops

/-! ### All constructs -/

/-- The guarded compiler does what the compiler does with every construct if it does so with its
parts. -/
theorem fidelity_closed : fidelity.Closed where
  literal span raw value pattern := by
    change term _ = lift _
    rw [term, Node.term_literal]
    split <;> rfl
  identifier span name := by
    change term _ = lift _
    rw [term, Node.term, lift_ok]
  member h := by
    change term _ = lift _
    rw [term, Node.term]
    exact bind_eq_lift (h _ _) fun _ => rfl
  unary {_ operator _ _} h := by
    change term _ = lift _
    rw [term, Node.term]
    cases unaryFunction? operator with
    | none => rfl
    | some name => exact bind_eq_lift h fun _ => rfl
  binary {_ operator _ _} hleft hright := by
    change term _ = lift _
    rw [term, Node.term]
    cases binaryFunction? operator with
    | none => rfl
    | some name => exact bind_eq_lift hleft fun _ => bind_eq_lift hright fun _ => rfl
  conditional htest hleft hright := by
    change term _ = lift _
    rw [term, Node.term]
    exact bind_eq_lift htest fun _ => bind_eq_lift hleft fun _ => bind_eq_lift hright fun _ => rfl
  call := call_eq
  construct := construct_eq
  declaration h := by
    change term _ = lift _
    rw [term, Node.term]
    exact bind_eq_lift h fun _ => rfl
  update := update_eq
  assignment := assignment_eq
  sequence h := by
    change term _ = lift _
    rw [term, Node.term]
    exact bind_eq_lift h fun _ => rfl
  block h := by
    change term _ = lift _
    rw [term, Node.term]
    exact bind_eq_lift h fun _ => rfl
  notExpression {node} h := by
    change term _ = lift _
    simp only [Node.term_of_not_isExpression h]
    cases node <;> simp [Node.isExpression] at h <;> simp only [term, lift_error]
  operand {node} hterm hdefinition := by
    change operand _ = lift _
    rw [operand, Node.operand]
    split
    · exact hdefinition
    · cases node.functionReference? with
      | none => exact hterm
      | some name => rfl
  definition := definition_eq
  elements_nil := by
    change elementTerms _ = lift _
    rw [elementTerms, Node.elementTerms, lift_ok]
  elements_none h := by
    change elementTerms _ = lift _
    rw [elementTerms, Node.elementTerms]
    exact h
  elements_some hfirst hrest := by
    change elementTerms _ = lift _
    rw [elementTerms, Node.elementTerms]
    exact bind_eq_lift hfirst fun _ => bind_eq_lift hrest fun _ => rfl
  entries_nil := by
    change entryTerms _ = lift _
    rw [entryTerms, Node.entryTerms, lift_ok]
  entries_cons {node _} hfirst hrest := by
    change entryTerms _ = lift _
    cases node with
    | property =>
        rw [entryTerms, Node.entryTerms]
        exact bind_eq_lift rfl fun _ => bind_eq_lift (hfirst _ _ _ _ _ rfl) fun _ =>
          bind_eq_lift hrest fun _ => rfl
    | _ => simp only [entryTerms, Node.entryTerms, keyOf, error_bind, lift_error]
  operands_nil := by
    change operands _ = lift _
    rw [operands, Node.operands, lift_ok]
  operands_cons hfirst hrest := by
    change operands _ = lift _
    rw [operands, Node.operands]
    exact bind_eq_lift hfirst fun _ => bind_eq_lift hrest fun _ => rfl
  accesses := accesses_eq
  chain := chain_eq
  state := state_eq
  contents := contents_eq
  bindings_nil := by
    change bindings _ = lift _
    rw [bindings, Node.bindings, lift_ok]
  bindings_cons {first _} hfirst hrest := by
    change bindings _ = lift _
    obtain ⟨span, target, init⟩ := first
    cases target with
    | identifier place name =>
        cases init with
        | none => simp only [bindings, Node.bindings, lift_error]
        | some init =>
            rw [bindings, Node.bindings]
            exact bind_eq_lift (hfirst init rfl) fun _ => bind_eq_lift hrest fun _ => rfl
    | _ => simp only [bindings, Node.bindings, lift_error]
  assignments_nil := by
    change assignments _ = lift _
    rw [assignments, Node.assignments, lift_ok]
  assignments_cons {node _} hfirst hrest := by
    change assignments _ = lift _
    cases node with
    | assignment span operator left right =>
        cases left with
        | identifier place name =>
            rw [assignments, Node.assignments]
            split
            · rfl
            · exact bind_eq_lift (hfirst _ _ _ _ rfl) fun _ => bind_eq_lift hrest fun _ => rfl
        | _ =>
            simp only [assignments, Node.assignments]
            split <;> rfl
    | _ => simp only [assignments, Node.assignments, lift_error]
  expressionStatement h := by
    change statement _ = lift _
    rw [statement, Node.statement]
    exact h
  conditionalStatement htest hbody hothers := by
    change statement _ = lift _
    rw [statement, Node.statement]
    exact bind_eq_lift htest fun _ => bind_eq_lift hbody fun _ => bind_eq_lift hothers fun _ => rfl
  whileLoop htest hbody := by
    change statement _ = lift _
    rw [statement, Node.statement]
    exact bind_eq_lift htest fun _ => bind_eq_lift hbody fun _ => rfl
  doWhileLoop htest hbody := by
    change statement _ = lift _
    rw [statement, Node.statement]
    exact bind_eq_lift htest fun _ => bind_eq_lift hbody fun _ => rfl
  forLoop := forLoop_eq
  forInLoop {_ left _ _} hright hbody := by
    change statement _ = lift _
    rw [statement, Node.statement]
    cases left.loopVariable? with
    | none => rfl
    | some name => exact bind_eq_lift hright fun _ => bind_eq_lift hbody fun _ => rfl
  throwStatement span argument := by
    change statement _ = lift _
    rw [statement, Node.statement]
    cases h : argument.text? with
    | none => rfl
    | some text => simp [textOf_eq h]
  empty span := by
    change statement _ = lift _
    rw [statement, Node.statement, lift_ok]
  notProper {node} hproper hterm := by
    change statement _ = lift _
    cases node with
    | declaration | assignment | sequence | block =>
        rw [statement, Node.statement]
        exact hterm
    | expressionStatement | conditionalStatement | whileLoop | doWhileLoop | forLoop | forInLoop
    | throwStatement | empty => simp [Node.isProperStatement] at hproper
    | _ => simp only [statement, Node.statement, lift_error]
  statements_nil := by
    change statements _ = lift _
    rw [statements, Node.statements, lift_ok]
  statements_cons hfirst hrest := by
    change statements _ = lift _
    rw [statements, Node.statements]
    exact bind_eq_lift hfirst fun _ => bind_eq_lift hrest fun _ => rfl
  body {node} hstatement hblock := by
    change statementBody _ = lift _
    cases node with
    | block span body =>
        rw [statementBody, Node.statementBody]
        exact hblock span body rfl
    | _ =>
        simp only [statementBody, Node.statementBody]
        exact bind_eq_lift hstatement fun _ => rfl
  alternatives_none := by
    change alternatives _ = lift _
    rw [alternatives, Node.alternatives, lift_ok]
  alternatives_some {node} hbody hchoice := by
    change alternatives _ = lift _
    cases node with
    | conditionalStatement span test consequent alternate =>
        obtain ⟨htest, hconsequent, halternate⟩ := hchoice span test consequent alternate rfl
        rw [alternatives, Node.alternatives]
        exact bind_eq_lift htest fun _ => bind_eq_lift hconsequent fun _ =>
          bind_eq_lift halternate fun _ => rfl
    | _ =>
        simp only [alternatives, Node.alternatives]
        exact bind_eq_lift hbody fun _ => rfl
  stepChange := stepChange_eq
  steps_nil := steps_nil_eq
  steps_cons := steps_cons_eq

/-! ### Documents -/

/-- The entries of object literals are made in the same way if what is made of them is. -/
theorem entriesWith_eq {make : String → Node → Except (Failure Fault) Json}
    {made : String → Node → Except Fault Json}
    (hmake : ∀ name node, make name node = lift (made name node)) (properties : List Node) :
    entriesWith make properties = lift (PfaScript.entriesWith made properties) := by
  induction properties with
  | nil => rfl
  | cons node rest ih =>
      cases node with
      | property span key value kind computed =>
          rw [entriesWith, PfaScript.entriesWith]
          simp only [keyOf, valueOf, ok_bind, hmake, ih, lift_bind]
          rfl
      | _ => rfl

theorem setting_eq (store : Store) (name key : String) (node : Node) :
    setting store name key node = lift (Slot.setting store name key node) := by
  unfold setting Slot.setting
  rw [constant_eq]
  cases Slot.keys.contains key with
  | true =>
      simp only [Bool.not_true, Bool.false_eq_true, if_false, lift_bind]
      congr 1
      funext value
      split <;> rfl
  | false => rfl

theorem slotDeclaration_eq (store : Store) (name : String) (node : Node) :
    slotDeclaration store name node = lift (Slot.declaration store name node) := by
  cases node with
  | object span properties =>
      rw [slotDeclaration, Slot.declaration,
        entriesWith_eq (setting_eq store name), lift_bind]
      congr 1
      funext given
      dsimp only
      cases (Slot.required store).find? (!(Entries.ofList given).contains ·) <;> rfl
  | _ => rfl

theorem slots_eq (store : Store) (node : Node) : slots store node = lift (node.slots store) := by
  cases node with
  | object span properties =>
      rw [slots, Node.slots,
        entriesWith_eq (slotDeclaration_eq store), lift_bind]
      rfl
  | _ => rfl

/-- A field that is given a plain function goes on with its parameters and its body. -/
theorem plainFunction_eq {α : Type} (field : Field) (node : Node)
    {next : List (Param Node) × Node → Except (Failure Fault) α}
    {go : List (Param Node) × List Node → Except Fault α}
    (h : ∀ params span body, next (params, .block span body) = lift (go (params, body))) :
    (plainFunction field node >>= next) = lift (Document.plainFunction field node >>= go) := by
  cases node with
  | function span params body id rest flags =>
      cases body with
      | block inner body =>
          rw [plainFunction, Document.plainFunction]
          cases Node.isPlainFunction id rest flags with
          | true => exact h params inner body
          | false => rfl
      | _ => simp [plainFunction, Document.plainFunction, Node.isBlock, Node.span]
  | _ => rfl

theorem functionBody_block (span : Option Span) (body : List Node) :
    functionBody (.block span body) = lift (do return .arr (← Node.statements body)) := by
  rw [functionBody, lift_bind, ← fidelity_closed.of_statements body]
  rfl

/-- The numbers among the constants are integers and floating-point numbers. -/
theorem constantNumber?_some {node : Node} {v : Json}
    (h : Document.constantNumber? node = some v) : (∃ n, v = .int n) ∨ ∃ x, v = .float x := by
  unfold Document.constantNumber? at h
  split at h
  · exact .inl ⟨_, (Option.some.inj h).symm⟩
  · exact .inr ⟨_, (Option.some.inj h).symm⟩
  · unfold negatedLiteral? Json.negated? at h
    split at h
    · split at h
      · exact .inl ⟨_, (Option.some.inj h).symm⟩
      · exact .inr ⟨_, (Option.some.inj h).symm⟩
      · contradiction
    · contradiction
  · contradiction

/-- A number that is no fraction is an integer. -/
theorem value_randseed_eq (node : Node) :
    value .randseed node = lift (Document.value .randseed node) := by
  simp only [value, Document.value, Document.constantInteger?]
  cases hnumber : Document.constantNumber? node with
  | none => rfl
  | some v =>
      rcases constantNumber?_some hnumber with ⟨n, rfl⟩ | ⟨x, rfl⟩
      · rfl
      · cases hx : x.toInt? <;> simp [isFraction, integerOf, hx]

theorem value_eq (field : Field) (node : Node) :
    value field node = lift (Document.value field node) := by
  cases field with
  | name | doc | method => rfl
  | input | output | zero | metadata => exact constant_eq node
  | begin | «end» =>
      simp only [value, Document.value]
      refine plainFunction_eq _ node fun params span body => ?_
      cases params with
      | nil => exact functionBody_block span body
      | cons param rest => rfl
  | action =>
      simp only [value, Document.value]
      refine plainFunction_eq _ node fun params span body => ?_
      rw [pairUp_map, ok_bind, lift_bind, functionBody_block]
      congr 1
      funext names
      split <;> rfl
  | fcns =>
      cases node with
      | object span properties =>
          rw [value, Document.value,
            entriesWith_eq fun _ => fidelity_closed.of_definition, lift_bind]
          rfl
      | _ => rfl
  | cells | pools => exact slots_eq _ node
  | randseed => exact value_randseed_eq node
  | options =>
      cases node with
      | object span properties =>
          simp only [value, Document.value, constantEntries_eq, lift_bind]
          rfl
      | _ => rfl

theorem entry_eq (document : Entries String Json) (statement : Node) :
    entry document statement = lift (Document.entry document statement) := by
  unfold entry Document.entry
  cases Document.assignment? statement with
  | none => rfl
  | some assignment =>
      obtain ⟨key, node⟩ := assignment
      dsimp only
      cases Field.ofKey? key with
      | none => rfl
      | some field =>
          dsimp only
          split
          · rfl
          · rw [value_eq, lift_bind]
            rfl

/-- The statements of a program add up to the same document, up to the first fault. -/
theorem assemble_eq (document : Entries String Json) (statements : List Node) :
    assemble document statements = lift (statements.foldlM Document.extend document) := by
  induction statements generalizing document with
  | nil => rfl
  | cons statement rest ih =>
      rw [assemble, List.foldlM_cons, Document.extend, bind_assoc]
      exact bind_eq_lift (entry_eq document statement) fun added => ih (document ++ [added])

theorem compile_eq (program : Program) : compile program = lift program.compile := by
  refine bind_eq_lift (assemble_eq [] program.body) fun document => ?_
  cases Document.incomplete? document <;> rfl

end Guarded

/-- **Compilation fails at faults of the script only.** Written with partial operations, compiling
ends as it does without them, in the document or in the fault, and so never in a breach; nor do the
two lists in which the parameters of a function are read ever differ in length. -/
theorem Program.only_faults :
    (∀ program : Program,
      (∃ document, Guarded.compile program = .ok document ∧ program.compile = .ok document) ∨
      (∃ fault, Guarded.compile program = .error (.fault fault) ∧
        program.compile = .error fault)) ∧
    ∀ (tag : String) (defaults : List (Option Node)) (fields : Entries String Json),
      Guarded.parameters tag defaults fields =
        Guarded.lift (Load.parameters tag defaults fields) := by
  refine ⟨?_, Guarded.parameters_eq⟩
  intro program
  rw [Guarded.compile_eq]
  cases program.compile with
  | ok document => exact .inl ⟨document, rfl, rfl⟩
  | error fault => exact .inr ⟨fault, rfl, rfl⟩

end PfaScript
