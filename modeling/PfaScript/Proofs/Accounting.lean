import PfaScript.Proofs.Children
import PfaScript.Proofs.Induction
import PfaScript.Proofs.Inversion
import PfaScript.Proofs.Results

/-!
# What an outcome accounts for

The compiler and `Node.walk` are two traversals of a tree. Every outcome of the compiler accounts
for the nodes that it was made of (`Node.Accounts`): if it is a result, all of them are known
constructs and the result has the property in question, and if it is a fault, it is blamed on the
place of one of them. So no construct is passed over, no fault is blamed on anything but the script,
and what passes from the parts of results to the whole (`Results.Closed`) holds of all results.

A function of the compiler may be told the place of a node that is not among those that it is given,
and then it may blame this place too. The steps of the compiler are put together by
`Node.Accounts.bind`; the functions that call each other are gone through by the induction over the
compiler, with the motive `Node.account`.
-/

namespace PfaScript

namespace Node

/-! ### Known constructs -/

/-- Whether a node is an unknown construct. -/
def isUnsupported : Node → Bool
  | .unsupported .. => true
  | _ => false

/-- All of these nodes are known constructs. -/
def Known (nodes : List Node) : Prop := ∀ node ∈ nodes, node.isUnsupported = false

theorem known_nil : Known [] := by
  intro node hnode
  cases hnode

theorem Known.cons {node : Node} {nodes : List Node} (h : Known nodes)
    (hnode : node.isUnsupported = false) : Known (node :: nodes) :=
  List.forall_mem_cons.mpr ⟨hnode, h⟩

theorem Known.append {nodes others : List Node} (h : Known nodes) (h' : Known others) :
    Known (nodes ++ others) :=
  List.forall_mem_append.mpr ⟨h, h'⟩

theorem literal_known (span : Option Span) (raw : Option Json) (value pattern : Json) :
    Known (Node.literal span raw value pattern).walk := by
  rw [walk]
  exact known_nil.cons rfl

theorem identifier_known (span : Option Span) (name : String) :
    Known (Node.identifier span name).walk := by
  rw [walk]
  exact known_nil.cons rfl

theorem text?_known {node : Node} {text : String} (h : node.text? = some text) :
    Known node.walk := by
  obtain ⟨span, raw, rfl⟩ := text?_some h
  exact literal_known span raw _ _

theorem name?_known {node : Node} {name : String} (h : node.name? = some name) :
    Known node.walk := by
  rcases name?_some h with ⟨span, raw, pattern, rfl⟩ | ⟨span, rfl⟩
  · exact literal_known span raw _ pattern
  · exact identifier_known span name

theorem negatedLiteral?_known {span : Option Span} {operator : String} {argument : Node}
    {leading : Bool} {number : Json} (h : negatedLiteral? operator argument = some number) :
    Known (Node.unary span operator argument leading).walk := by
  obtain ⟨place, raw, value, pattern, rfl, -⟩ := negatedLiteral?_some h
  rw [walk]
  exact (literal_known place raw value pattern).cons rfl

/-- A call that documents has a text literal for its only argument. -/
theorem map_text?_known {arguments : List Node} {text : String}
    (h : arguments.map text? = [some text]) : Known (walkAll arguments) := by
  rcases arguments with _ | ⟨argument, _ | ⟨second, rest⟩⟩
  · cases h
  · simp only [List.map_cons, List.map_nil, List.cons.injEq, and_true] at h
    rw [walkAll, walkAll]
    exact (text?_known h).append known_nil
  · simp at h

theorem functionReference?_known {node : Node} {name : String}
    (h : node.functionReference? = some name) : Known node.walk := by
  obtain ⟨span, place, argument, rfl, hname⟩ := functionReference?_some h
  rw [walk, walkAll, walkAll]
  exact ((identifier_known place "fcn").append ((name?_known hname).append known_nil)).cons rfl

theorem loopVariable?_known {node : Node} {name : String} (h : node.loopVariable? = some name) :
    Known node.walk := by
  obtain ⟨span, inner, place, rfl⟩ := loopVariable?_some h
  rw [walk, walkDeclarators, walkOption, walkDeclarators]
  exact ((((identifier_known place name).append known_nil).cons rfl).append known_nil).cons rfl

/-! ### Accounts -/

section accounts

variable {α β : Type} {N : Node → Prop} {own : Option Span} {node : Node}
  {nodes others : List Node} {P P' : α → Prop} {Q : β → Prop} {x : Except Fault α}
  {f : α → Except Fault β}

/-- Where the nodes are as `N` demands: if the outcome is a result, the nodes are known constructs
and the result has the property, and if it is a fault, it is blamed on the place at hand or on that
of one of the nodes. -/
def Accounts (N : Node → Prop) (own : Option Span) (nodes : List Node) (P : α → Prop)
    (x : Except Fault α) : Prop :=
  (∀ node ∈ nodes, N node) → match x with
    | .ok a => Known nodes ∧ P a
    | .error fault => fault.span = own ∨ ∃ node ∈ nodes, fault.span = node.span

namespace Accounts

theorem of_ok (h : Accounts N own nodes P x) (hN : ∀ node ∈ nodes, N node) {a : α}
    (hx : x = .ok a) : Known nodes ∧ P a := by
  subst hx
  exact h hN

theorem blamed (h : Accounts N node.span nodes P x) (hN : ∀ node ∈ nodes, N node)
    (hnode : node ∈ nodes) {fault : Fault} (hx : x = .error fault) :
    ∃ node ∈ nodes, fault.span = node.span := by
  subst hx
  exact (h hN).elim (fun hspan => ⟨node, hnode, hspan⟩) id

theorem ok {a : α} (hknown : Known nodes) (ha : (∀ node ∈ nodes, N node) → P a) :
    Accounts N own nodes P (.ok a) :=
  fun hN => ⟨hknown, ha hN⟩

theorem done {a : α} (ha : P a) : Accounts N own [] P (.ok a) := .ok known_nil fun _ => ha

/-- The place at hand can be blamed. -/
theorem blameOwn {cause : Cause} : Accounts N own nodes P (.error ⟨cause, own⟩) := fun _ => .inl rfl

theorem blame {cause : Cause} (h : node ∈ nodes) :
    Accounts N own nodes P (.error ⟨cause, node.span⟩) :=
  fun _ => .inr ⟨node, h, rfl⟩

theorem imp (h : Accounts N own nodes P x) (himp : ∀ a, P a → P' a) :
    Accounts N own nodes P' x := by
  intro hN
  cases x with
  | ok a => exact (h hN).imp_right (himp a)
  | error fault => exact h hN

/-- Only which nodes there are matters. -/
theorem of_mem_iff (h : Accounts N own nodes P x) (hsame : ∀ node, node ∈ others ↔ node ∈ nodes) :
    Accounts N own others P x := by
  intro hN
  have hx := h fun node hnode => hN node ((hsame node).mpr hnode)
  cases x with
  | ok a => exact ⟨fun node hnode => hx.1 node ((hsame node).mp hnode), hx.2⟩
  | error fault =>
      exact hx.imp_right fun hnode => hnode.imp fun node hmem => ⟨(hsame node).mpr hmem.1, hmem.2⟩

/-- A place that is that of one of the nodes need not be at hand. -/
theorem of_mem (h : Accounts N node.span nodes P x) (hnode : node ∈ nodes) :
    Accounts N own nodes P x := by
  intro hN
  cases x with
  | ok a => exact h hN
  | error fault => exact .inr (h.blamed hN hnode rfl)

theorem of_walk (h : Accounts N node.span node.walk P x) : Accounts N own node.walk P x :=
  h.of_mem (mem_walk_self node)

/-- Nodes that are known anyway can be added. -/
theorem known_append (hothers : Known others)
    (h : (∀ node ∈ others, N node) → Accounts N own nodes P x) :
    Accounts N own (others ++ nodes) P x := by
  intro hN
  obtain ⟨hbefore, hafter⟩ := List.forall_mem_append.mp hN
  have hx := h hbefore hafter
  cases x with
  | ok a => exact ⟨hothers.append hx.1, hx.2⟩
  | error fault =>
      exact hx.imp_right fun hnode => hnode.imp fun node hmem =>
        ⟨List.mem_append_right _ hmem.1, hmem.2⟩

/-- A known construct accounts for itself, if its parts are accounted for. -/
theorem cons (hnode : node.isUnsupported = false) (h : N node → Accounts N node.span nodes P x) :
    Accounts N own (node :: nodes) P x :=
  (known_append (known_nil.cons hnode) fun hN => h (hN node (List.mem_singleton_self node))).of_mem
    List.mem_cons_self

/-- A sequence of two steps accounts for the nodes of both. -/
theorem bind (hx : Accounts N own nodes P x) (hf : ∀ a, P a → Accounts N own others Q (f a)) :
    Accounts N own (nodes ++ others) Q (x >>= f) := by
  intro hN
  have hx := hx (List.forall_mem_append.mp hN).1
  cases x with
  | ok a => exact known_append hx.1 (fun _ => hf a hx.2) hN
  | error fault =>
      exact Or.imp_right (fun hnode => hnode.imp fun node hmem =>
        ⟨List.mem_append_left _ hmem.1, hmem.2⟩) hx

/-- A second step may be made of no nodes. -/
theorem check (hx : Accounts N own nodes P x) (hf : ∀ a, P a → Accounts N own [] Q (f a)) :
    Accounts N own nodes Q (x >>= f) :=
  List.append_nil nodes ▸ hx.bind hf

/-- A result that is built from that of one step adds no nodes. -/
theorem map {g : α → β} (hx : Accounts N own nodes P x) (hg : ∀ a, P a → Q (g a)) :
    Accounts N own nodes Q (do return g (← x)) :=
  hx.check fun a ha => .done (hg a ha)

end Accounts

end accounts

variable {R : Results} {N : Node → Prop}

/-- Every function of the compiler accounts for the nodes that it is given, and its results have the
property. -/
def account (R : Results) (N : Node → Prop) : Motive where
  term node := ∀ own, Accounts N own node.walk R.term (term node)
  operand node := ∀ own, Accounts N own node.walk R.operand (operand node)
  definition node := ∀ own, Accounts N own node.walk R.definition (definition node)
  elements nodes := ∀ own,
    Accounts N own (walkHoles nodes) (∀ item ∈ ·, R.term item) (elementTerms nodes)
  entries nodes := ∀ own, Accounts N own (walkAll nodes) (R.Bound R.term) (entryTerms nodes)
  operands nodes := ∀ own,
    Accounts N own (walkAll nodes) (∀ item ∈ ·, R.operand item) (operands nodes)
  accesses base access := ∀ span computed, Accounts N span (base.walk ++ access.walk)
    (fun path => R.term path.1 ∧ path.2 ≠ [] ∧ ∀ step ∈ path.2, R.term step)
    (accesses span base access computed)
  chain node := ∀ own, Accounts N own node.walk
    (fun path => R.term path.1 ∧ ∀ step ∈ path.2, R.term step) (chain node)
  state nodes := ∀ span store most, R.place span → most ≤ 4 → (store = .cells → most ≤ 3) →
    Accounts N span (walkAll nodes) R.term (stateAccess span store most nodes)
  contents node := ∀ span name type own, R.place span →
    Accounts N own (node.walk ++ type.walk) R.term (newValue span name node type)
  bindings nodes := ∀ own,
    Accounts N own (walkDeclarators nodes) (R.Bound R.term) (bindings nodes)
  assignments nodes := ∀ own, Accounts N own (walkAll nodes) (R.Bound R.term) (assignments nodes)
  statement node := ∀ own,
    Accounts N own node.walk (fun v => v ≠ .null → R.statement v) (statement node)
  statements nodes := ∀ own,
    Accounts N own (walkAll nodes) (∀ item ∈ ·, R.statement item) (statements nodes)
  body node := ∀ own, Accounts N own node.walk (∀ item ∈ ·, R.statement item) (statementBody node)
  alternatives node := ∀ own, Accounts N own (walkOption node)
    (fun found => (∀ branch ∈ found.1, R.branch (.obj branch)) ∧
      ∀ body ∈ found.2, ∀ item ∈ body, R.statement item) (alternatives node)
  stepChange node := ∀ own, Accounts N own node.walk
    (fun change => R.name change.1 ∧ R.term change.2) (stepChange node)
  steps nodes := ∀ own, Accounts N own (walkAll nodes)
    (fun changes => R.Bound R.term changes ∧ (nodes ≠ [] → changes ≠ [])) (steps nodes)

/-! ### Names and constants -/

section names

variable (h : R.Closed N)

include h

/-- A name accounts for itself. -/
theorem identifier_append {α : Type} {own : Option Span} {name : String} {nodes : List Node}
    {P : α → Prop} {x : Except Fault α} (span : Option Span)
    (hx : R.name name → Accounts N own nodes P x) :
    Accounts N own ((Node.identifier span name).walk ++ nodes) P x :=
  .known_append (identifier_known span name) fun hN =>
    hx (h.variableName (hN _ (mem_walk_self _)))

theorem functionName_accounts (own : Option Span) (node : Node) :
    Accounts N own node.walk R.name node.functionName := by
  cases node with
  | identifier span name =>
      rw [functionName]
      exact .ok (identifier_known span name) fun hN => h.variableName (hN _ (mem_walk_self _))
  | member span base access computed =>
      rw [walk, functionName]
      refine .cons rfl fun _ => ?_
      cases computed with
      | true => exact .blameOwn
      | false =>
          exact (functionName_accounts _ base).bind fun left _ =>
            (functionName_accounts _ access).map fun right _ =>
              h.fixedName (point_ne_markerKey left right)
  | _ =>
      simp only [functionName]
      exact .blame (mem_walk_self _)

theorem propertyKey_accounts (span : Option Span) (key : Node) (kind : String) (computed : Bool) :
    Accounts N span key.walk R.name (propertyKey span key kind computed) := by
  cases hkey : propertyKey span key kind computed with
  | ok name =>
      obtain ⟨hname, ⟨place, raw, pattern, rfl⟩ | ⟨place, rfl⟩⟩ := propertyKey_ok hkey
      · exact .ok (literal_known place raw _ pattern) fun _ => h.fixedName hname
      · exact .ok (identifier_known place name) fun _ => h.fixedName hname
  | error fault =>
      unfold propertyKey at hkey
      split at hkey
      · cases hkey
        exact .blameOwn
      · dsimp only at hkey
        split at hkey <;> try split at hkey
        all_goals
          cases hkey
          try exact .blameOwn

/-- An entry of an object literal accounts for its key and for its value, whatever is made of it. -/
theorem property_accounts {own span : Option Span} {key value : Node} {kind : String}
    {computed : Bool} {nodes : List Node} {P : Json → Prop} {make : String → Except Fault Json}
    {rest : Except Fault (List (String × Json))}
    (hmake : ∀ name own, Accounts N own value.walk P (make name))
    (hrest : ∀ own, Accounts N own nodes (R.Bound P) rest) :
    Accounts N own ((Node.property span key value kind computed).walk ++ nodes) (R.Bound P) (do
      let name ← propertyKey span key kind computed
      let first ← make name
      return (name, first) :: (← rest)) := by
  rw [walk, List.cons_append, List.append_assoc]
  refine .cons rfl fun _ => ?_
  refine (propertyKey_accounts h span key kind computed).bind fun name hname => ?_
  exact (hmake name _).bind fun _ hfirst => (hrest _).map fun _ hrest => hrest.cons hname hfirst

theorem entriesWith_accounts {P : Json → Prop} {make : String → Node → Except Fault Json}
    (hmake : ∀ name node own, Accounts N own node.walk P (make name node)) (own : Option Span)
    (properties : List Node) :
    Accounts N own (walkAll properties) (R.Bound P) (entriesWith make properties) := by
  induction properties generalizing own with
  | nil => exact .done .nil
  | cons node rest ih =>
      rw [walkAll]
      cases node with
      | property span key value kind computed =>
          exact property_accounts h (fun name => hmake name value) ih
      | _ =>
          simp only [entriesWith]
          exact .blame (List.mem_append_left _ (mem_walk_self _))

/-- A negated literal has the property if its nodes are as demanded. -/
theorem value_negatedLiteral {span : Option Span} {operator : String} {argument : Node}
    {leading : Bool} {number : Json}
    (hnumber : negatedLiteral? operator argument = some number)
    (hN : ∀ node ∈ (Node.unary span operator argument leading).walk, N node) : R.value number := by
  obtain ⟨place, raw, value, pattern, rfl, hvalue⟩ := negatedLiteral?_some hnumber
  have hliteral : .literal place raw value pattern ∈
      (Node.unary span operator (.literal place raw value pattern) leading).walk := by
    rw [walk]
    exact List.mem_cons_of_mem _ (mem_walk_self _)
  exact h.negated (h.literalValue (hN _ hliteral)) hvalue

end names

mutual

theorem constant_accounts (h : R.Closed N) (own : Option Span) (node : Node) :
    Accounts N own node.walk R.value node.constant := by
  cases node with
  | literal span raw value pattern =>
      refine .of_walk ?_
      rw [constant]
      split
      · exact .blameOwn
      · exact .ok (literal_known span raw value pattern) fun hN =>
          h.literalValue (hN _ (mem_walk_self _))
  | unary span operator argument leading =>
      refine .of_walk ?_
      rw [constant]
      cases hnumber : negatedLiteral? operator argument with
      | none => exact .blameOwn
      | some number =>
          exact .ok (negatedLiteral?_known hnumber) (value_negatedLiteral h hnumber)
  | array span elements =>
      rw [walk, constant]
      exact .cons rfl fun _ => (constants_accounts h span elements).map fun _ => h.items
  | object span properties =>
      rw [walk, constant]
      exact .cons rfl fun hN =>
        (constantEntries_accounts h _ properties).map fun _ => h.mapping (h.place hN)
  | _ =>
      simp only [constant]
      exact .blame (mem_walk_self _)

theorem constants_accounts (h : R.Closed N) (span : Option Span) (elements : List (Option Node)) :
    Accounts N span (walkHoles elements) (∀ item ∈ ·, R.value item) (constants span elements) := by
  match elements with
  | [] =>
      rw [constants]
      exact .done (by simp)
  | none :: rest =>
      rw [constants]
      exact .blameOwn
  | some element :: rest =>
      rw [walkHoles, walkOption, constants]
      exact (constant_accounts h _ element).bind fun _ hfirst =>
        (constants_accounts h span rest).map fun _ hrest => List.forall_mem_cons.mpr ⟨hfirst, hrest⟩

theorem constantEntries_accounts (h : R.Closed N) (own : Option Span) (properties : List Node) :
    Accounts N own (walkAll properties) (R.Bound R.value) (constantEntries properties) := by
  match properties with
  | [] =>
      rw [constantEntries]
      exact .done .nil
  | node :: rest =>
      rw [walkAll]
      cases node with
      | property span key value kind computed =>
          rw [constantEntries]
          exact property_accounts h (fun _ own => constant_accounts h own value)
            fun own => constantEntries_accounts h own rest
      | _ =>
          simp only [constantEntries]
          exact .blame (List.mem_append_left _ (mem_walk_self _))

end

variable (h : R.Closed N)

include h

/-- The parameters of a function definition are names with constants for types. -/
theorem typedParams_accounts (own : Option Span) (params : List (Param Node)) :
    Accounts N own (walkTargets params ++ walkDefaults params) (∀ item ∈ ·, R.parameter item)
      (typedParams params) := by
  induction params with
  | nil => exact .done (by simp)
  | cons param rest ih =>
      obtain ⟨target, initial⟩ := param
      have htarget : target ∈ walkTargets (⟨target, initial⟩ :: rest) ++
          walkDefaults (⟨target, initial⟩ :: rest) :=
        List.mem_append_left _ (target_mem_walkTargets target initial rest)
      cases target with
      | identifier span name =>
          cases initial with
          | none => exact .blame htarget
          | some type =>
              rw [typedParams]
              refine Accounts.of_mem_iff (identifier_append h span fun hname =>
                (constant_accounts h own type).bind fun first hfirst => ih.map fun _ hrest =>
                  List.forall_mem_cons.mpr ⟨h.parameter hname hfirst, hrest⟩) fun node => ?_
              simp only [walkTargets, walkDefaults, walkOption, List.mem_append]
              tauto
      | _ =>
          simp only [typedParams]
          exact .blame htarget

/-- What an assignment stores is the value, or the application of a function to it. -/
theorem assigned_accounts {own : Option Span} {target value : Json} {P : Json → Prop}
    (hown : R.place own) (htarget : R.term target) (hvalue : R.operand value) (hP : P value)
    (hterm : ∀ v, R.term v → P v) (operator : String) :
    Accounts N own [] P (assigned own operator target value) := by
  unfold assigned
  cases hfunction : compoundFunction? operator with
  | none => exact .done hP
  | some function =>
      dsimp only
      split
      · exact .blameOwn
      · exact .done (hterm _ (h.application hown
          (h.fixedName (compoundFunction?_ne_markerKey hfunction))
          (List.forall_mem_cons.mpr ⟨h.ofTerm htarget, List.forall_mem_singleton.mpr hvalue⟩)))

theorem updated_accounts {own : Option Span} (hown : R.place own) (operator name : String)
    (cause : Cause) : Accounts N own [] R.term (updated own operator name ⟨cause, own⟩) := by
  unfold updated
  cases hfunction : updateFunction? operator with
  | none => exact .blameOwn
  | some function =>
      exact .done (h.application hown (h.fixedName (updateFunction?_ne_markerKey hfunction))
        (List.forall_mem_cons.mpr ⟨h.ofTerm (h.identifier name),
          List.forall_mem_singleton.mpr (h.ofTerm h.one)⟩))

/-! ### Expressions -/

section expressions

variable {span : Option Span} {node : Node} {nodes : List Node}

theorem call_accounts (hstate : (account R N).state nodes)
    (hoperands : (account R N).operands nodes) : (account R N).term (.call span node nodes) := by
  intro own
  rw [walk, term]
  refine .cons rfl fun hN => (functionName_accounts h _ node).bind fun name hname => ?_
  have hspan : R.place span := h.place hN
  split
  · exact hstate span .cells 3 hspan (by omega) fun _ => Nat.le_refl 3
  split
  · exact hstate span .pools 4 hspan (by omega) (by rintro ⟨⟩)
  split
  · split
    next text htext => exact .ok (map_text?_known htext) fun _ => h.doc text hspan
    next => exact .blameOwn
  · refine (hoperands _).map fun _ => h.application hspan ?_
    split
    · exact h.fixedName (by decide)
    · exact hname

theorem construct_accounts (hcontents : ∀ contents ∈ nodes, (account R N).contents contents) :
    (account R N).term (.construct span node nodes) := by
  intro own
  rw [walk]
  refine .cons rfl fun hN => ?_
  cases node with
  | identifier place name =>
      by_cases hname : name = "Array" ∨ name = "Map" ∨ name = "Record"
      · rcases nodes with _ | ⟨contents, _ | ⟨type, _ | ⟨third, rest⟩⟩⟩
        case cons.cons.nil =>
          rw [walkAll, walkAll, walkAll, List.append_nil, term, if_pos hname]
          exact identifier_append h _ fun _ =>
            hcontents contents List.mem_cons_self span name type _ (h.place hN)
        all_goals
          simp only [term, if_pos hname]
          exact .blameOwn
      · rw [term_construct_of_not hname]
        exact .blameOwn
  | _ =>
      simp only [term]
      exact .blameOwn

theorem assignment_accounts {operator : String} {left right : Node}
    (hright : (account R N).term right) (hoperand : (account R N).operand right)
    (hpath : ∀ place base access computed, left = .member place base access computed →
      (account R N).accesses base access) :
    (account R N).term (.assignment span operator left right) := by
  intro own
  rw [walk]
  refine .cons rfl fun hN => ?_
  have hspan : R.place span := h.place hN
  by_cases hoperator : !isAssignmentOperator operator
  · cases left <;> simp only [term, if_pos hoperator] <;> exact .blameOwn
  cases left with
  | identifier place name =>
      rw [term, if_neg hoperator]
      refine identifier_append h _ fun hname => (hright _).check fun value hvalue => ?_
      exact (assigned_accounts h hspan (h.identifier name) (h.ofTerm hvalue) hvalue
        (fun _ => id) operator).map fun _ hstored => h.assignment hspan (.single hname hstored)
  | member place base access computed =>
      rw [term, if_neg hoperator]
      -- the target is compiled with its own place, what is stored with that of the assignment
      have hleft : Accounts N span (Node.member place base access computed).walk
          (fun path => R.place place ∧ R.term path.1 ∧ path.2 ≠ [] ∧ ∀ step ∈ path.2, R.term step)
          (accesses place base access computed) := by
        rw [walk]
        exact .cons rfl fun hN => (hpath place base access computed rfl _ _).imp
          fun _ hpath => ⟨h.place hN, hpath⟩
      refine hleft.bind fun path hpath => (hoperand _).check fun value hvalue => ?_
      obtain ⟨hplace, hroot, hne, hsteps⟩ := hpath
      exact (assigned_accounts h hspan (h.part hplace hroot hne hsteps) hvalue hvalue
        (fun _ => h.ofTerm) operator).map fun _ => h.partTo hplace hroot hne hsteps
  | _ =>
      simp only [term, if_neg hoperator]
      exact .blameOwn

/-- The shape of a function is blamed on the function itself, which is a part of its definition. -/
theorem definition_accounts
    (hbody : ∀ span place params inner body id rest flags type,
      node = .binary span ">>" (.function place params (.block inner body) id rest flags) type →
      (account R N).statements body) : (account R N).definition node := by
  intro own
  by_cases hdefinition : node.isDefinition
  · unfold isDefinition at hdefinition
    split at hdefinition
    next span place params whole id rest flags type =>
      have hfunction : .function place params whole id rest flags ∈
          (Node.binary span ">>" (.function place params whole id rest flags) type).walk := by
        rw [walk]
        exact List.mem_cons_of_mem _ (List.mem_append_left _ (mem_walk_self _))
      cases whole with
      | block inner body =>
          rw [definition]
          by_cases hplain : isPlainFunction id rest flags
          · obtain ⟨rfl, rfl⟩ := isPlainFunction_iff hplain
            rw [if_pos hplain]
            have hknown : Known [.binary span ">>" (.function place params (.block inner body) none
                none flags) type, .function place params (.block inner body) none none flags,
                .block inner body] :=
              ((known_nil.cons rfl).cons rfl).cons rfl
            refine .of_walk (Accounts.of_mem_iff (.known_append hknown fun hN =>
              (typedParams_accounts h span params).bind fun given hgiven =>
                (constant_accounts h span type).bind fun ret hret =>
                  (hbody _ _ _ _ _ _ _ _ _ rfl span).map fun items =>
                    h.definition (h.place (hN _ List.mem_cons_self)) hgiven hret) fun node => ?_)
            simp only [walk, walkOption, List.mem_cons, List.mem_append, List.not_mem_nil]
            tauto
          · rw [if_neg hplain]
            exact .blame hfunction
      | _ =>
          simp only [definition]
          exact .blame hfunction
    · cases hdefinition
  · rw [definition_of_not_isDefinition (Bool.eq_false_iff.mpr hdefinition)]
    exact .blame (mem_walk_self node)

theorem accesses_accounts {base access : Node} (haccess : (account R N).term access)
    (hbase : (account R N).chain base) : (account R N).accesses base access := by
  intro span computed
  have hstep : Accounts N span access.walk R.term (accessStep span access computed) := by
    unfold accessStep
    split
    · exact haccess span
    · split
      next name =>
        exact .ok (identifier_known _ name) fun hN =>
          h.string name (h.place (hN _ (mem_walk_self _)))
      · exact .blameOwn
  rw [accesses_eq]
  -- the last access is compiled first
  refine Accounts.of_mem_iff (?_ : Accounts N span (access.walk ++ base.walk) _ _) fun node => ?_
  · exact hstep.bind fun step hstep => (hbase span).check fun path hpath =>
      .done ⟨hpath.1, by simp, List.forall_mem_append.mpr
        ⟨hpath.2, List.forall_mem_singleton.mpr hstep⟩⟩
  · rw [List.mem_append, List.mem_append, or_comm]

omit h in
theorem chain_accounts (hterm : (account R N).term node)
    (hmember : ∀ span base access computed, node = .member span base access computed →
      (account R N).accesses base access) : (account R N).chain node := by
  intro own
  by_cases hnode : node.isMember
  · cases node with
    | member span base access computed =>
        rw [walk, chain]
        exact .cons rfl fun _ => (hmember span base access computed rfl _ _).imp
          fun _ hpath => ⟨hpath.1, hpath.2.2⟩
    | _ => cases hnode
  · rw [chain_of_not_isMember (Bool.eq_false_iff.mpr hnode)]
    exact (hterm own).map fun _ hroot => ⟨hroot, by simp⟩

omit h in
theorem statePath_accounts {own : Option Span} {rest : List Node} (store : Store)
    (hpath : ∀ span elements, node = .array span elements → (account R N).elements elements) :
    Accounts N own node.walk
      (fun fields => ∃ path, fields = [("path", .arr path)] ∧ ∀ step ∈ path, R.term step)
      (statePath store (node :: rest)) := by
  cases node with
  | array span elements =>
      rw [walk, statePath]
      refine .cons rfl fun _ => ?_
      split
      · exact .blameOwn
      · exact (hpath span elements rfl _).map fun path hsteps => ⟨path, rfl, hsteps⟩
  | _ =>
      simp only [statePath]
      exact .blame (mem_walk_self _)

theorem state_accounts
    (hpath : ∀ span elements, .array span elements ∈ nodes → (account R N).elements elements)
    (hvalue : ∀ node ∈ nodes, (account R N).operand node) : (account R N).state nodes := by
  intro span store most hspan hmost hcells
  rcases nodes with _ | ⟨slot, rest⟩
  · simp only [stateAccess]
    split <;> exact .blameOwn
  rw [walkAll, stateAccess]
  by_cases hlength : most < (slot :: rest).length
  · rw [if_pos hlength]
    exact .blameOwn
  rw [if_neg hlength]
  cases hname : slot.name? with
  | none => exact .blame (List.mem_append_left _ (mem_walk_self slot))
  | some name =>
      refine .known_append (name?_known hname) fun _ => ?_
      rcases rest with _ | ⟨path, changes⟩
      · simp only [statePath, stateChanges]
        exact .done (h.slot store name hspan)
      rw [walkAll]
      refine (statePath_accounts store fun place elements hnode =>
        hpath place elements (by simp [hnode])).bind fun fields hfields => ?_
      obtain ⟨steps, rfl, hsteps⟩ := hfields
      refine Accounts.map (P := fun changes => R.term
        (tagged span ((store.slot, .str name) :: [("path", .arr steps)] ++ changes))) ?_
        fun _ => id
      -- there are at most two values, so that none is passed over
      rcases changes with _ | ⟨value, _ | ⟨initial, _ | ⟨further, rest⟩⟩⟩
      · simp only [stateChanges]
        exact .done (h.slotPart store name hspan hsteps)
      · simp only [stateChanges, walkAll, List.append_nil]
        exact (hvalue value (by simp) _).map fun _ => h.slotTo store name hspan hsteps
      · simp only [stateChanges, walkAll, List.append_nil]
        refine (hvalue value (by simp) _).bind fun _ hto => (hvalue initial (by simp) _).map
          fun _ hinit => ?_
        -- only a pool takes four arguments
        cases store with
        | cells =>
            have hthree := hcells rfl
            simp only [List.length_cons, List.length_nil] at hlength
            omega
        | pools => exact h.poolInit name hspan hsteps hto hinit
      · simp only [List.length_cons] at hlength
        omega

theorem contents_accounts {contents : Node}
    (helements : ∀ place elements, contents = .array place elements →
      (account R N).elements elements)
    (hentries : ∀ place properties, contents = .object place properties →
      (account R N).entries properties) : (account R N).contents contents := by
  intro span name type own hspan
  have htype (nodes : List Node) : type ∈ nodes ++ type.walk :=
    List.mem_append_right _ (mem_walk_self type)
  cases contents with
  | array place elements =>
      rw [walk, List.cons_append, newValue]
      refine .cons rfl fun _ => ?_
      split
      · by_cases hliteral : type.isTypeLiteral
        · rw [if_pos hliteral, ok_bind]
          split
          · exact .blameOwn
          · exact (helements place elements rfl _).bind fun _ hitems =>
              (constant_accounts h _ type).map fun _ => h.newItems hspan hitems
        · rw [if_neg hliteral]
          exact .blame (htype _)
      · exact .blameOwn
  | object place properties =>
      rw [walk, List.cons_append, newValue]
      refine .cons rfl fun _ => ?_
      split
      · exact .blameOwn
      · by_cases hliteral : type.isTypeLiteral
        · rw [if_pos hliteral, ok_bind]
          exact (hentries place properties rfl _).bind fun _ hentries =>
            (constant_accounts h _ type).map fun _ => h.newEntries hspan hentries
        · rw [if_neg hliteral]
          exact .blame (htype _)
  | _ =>
      simp only [newValue]
      exact .blame (List.mem_append_left _ (mem_walk_self _))

end expressions

/-! ### Lists of parts -/

section lists

variable {node : Node} {nodes : List Node}

theorem entries_cons_accounts
    (hfirst : ∀ span key value kind computed, node = .property span key value kind computed →
      (account R N).term value) (hrest : (account R N).entries nodes) :
    (account R N).entries (node :: nodes) := by
  intro own
  rw [walkAll]
  cases node with
  | property span key value kind computed =>
      rw [entryTerms]
      exact property_accounts h (fun _ => hfirst _ _ _ _ _ rfl) hrest
  | _ =>
      simp only [entryTerms]
      exact .blame (List.mem_append_left _ (mem_walk_self _))

/-- A faulty declarator is blamed on itself and not on the declaration. -/
theorem bindings_cons_accounts {first : Declarator Node} {rest : List (Declarator Node)}
    (hfirst : ∀ init, first.init = some init → (account R N).term init)
    (hrest : (account R N).bindings rest) : (account R N).bindings (first :: rest) := by
  intro own
  obtain ⟨span, target, init⟩ := first
  rw [walkDeclarators, List.cons_append, List.append_assoc]
  refine .cons rfl fun _ => ?_
  cases target with
  | identifier place name =>
      cases init with
      | none =>
          rw [bindings]
          exact .blameOwn
      | some value =>
          rw [walkOption, bindings]
          exact identifier_append h _ fun hname => (hfirst value rfl _).bind fun _ hvalue =>
            (hrest _).map fun _ hrest => hrest.cons hname hvalue
  | _ =>
      simp only [bindings]
      exact .blameOwn

theorem assignments_cons_accounts
    (hfirst : ∀ span operator left right, node = .assignment span operator left right →
      (account R N).term right) (hrest : (account R N).assignments nodes) :
    (account R N).assignments (node :: nodes) := by
  intro own
  rw [walkAll]
  cases node with
  | assignment span operator left right =>
      rw [walk, List.cons_append, List.append_assoc]
      refine .cons rfl fun _ => ?_
      by_cases hoperator : operator ≠ "="
      · cases left <;> simp only [assignments, if_pos hoperator] <;> exact .blameOwn
      cases left with
      | identifier place name =>
          rw [assignments, if_neg hoperator]
          exact identifier_append h _ fun hname => (hfirst _ _ _ _ rfl _).bind fun _ hvalue =>
            (hrest _).map fun _ hrest => hrest.cons hname hvalue
      | _ =>
          simp only [assignments, if_neg hoperator]
          exact .blameOwn
  | _ =>
      simp only [assignments]
      exact .blame (List.mem_append_left _ (mem_walk_self _))

theorem stepChange_accounts
    (hright : ∀ span operator left right, node = .assignment span operator left right →
      (account R N).term right) : (account R N).stepChange node := by
  intro own
  cases node with
  | assignment span operator left right =>
      rw [walk]
      refine .cons rfl fun hN => ?_
      cases left with
      | identifier place name =>
          rw [stepChange]
          refine identifier_append h _ fun hname => (hright _ _ _ _ rfl _).check fun _ hvalue => ?_
          exact (assigned_accounts h (h.place hN) (h.identifier name) (h.ofTerm hvalue) hvalue
            (fun _ => id) operator).map fun _ hstored => ⟨hname, hstored⟩
      | _ =>
          simp only [stepChange]
          exact .blameOwn
  | update span operator argument leading =>
      rw [walk]
      refine .cons rfl fun hN => ?_
      cases argument with
      | identifier place name =>
          rw [stepChange, ← List.append_nil (Node.identifier place name).walk]
          exact identifier_append h _ fun hname =>
            (updated_accounts h (h.place hN) operator name .forStep).map fun _ hv => ⟨hname, hv⟩
      | _ =>
          simp only [stepChange]
          exact .blameOwn
  | _ =>
      simp only [stepChange]
      exact .blame (mem_walk_self _)

end lists

/-! ### Statements -/

section statements

variable {span : Option Span} {node body : Node}

theorem alternatives_some_accounts (hbody : (account R N).body node)
    (hconditional : ∀ span test consequent alternate,
      node = .conditionalStatement span test consequent alternate →
      (account R N).term test ∧ (account R N).body consequent ∧
        (account R N).alternatives alternate) : (account R N).alternatives (some node) := by
  intro own
  rw [walkOption]
  by_cases hnode : node.isConditional
  · cases node with
    | conditionalStatement span test consequent alternate =>
        obtain ⟨htest, hconsequent, halternate⟩ := hconditional _ _ _ _ rfl
        rw [walk, List.append_assoc, alternatives]
        refine .cons rfl fun hN => (htest span).bind fun _ htest => (hconsequent span).bind
          fun _ hbody => (halternate span).check fun _ hothers => .done ?_
        exact ⟨List.forall_mem_cons.mpr ⟨h.branch (h.place hN) htest hbody, hothers.1⟩, hothers.2⟩
    | _ => cases hnode
  · rw [alternatives_of_not_isConditional (Bool.eq_false_iff.mpr hnode)]
    refine (hbody own).map fun items hitems => ⟨by simp, ?_⟩
    rintro body ⟨⟩
    exact hitems

omit h in
/-- The steps of a loop are those of a sequence, or its only step. -/
theorem steps_stepParts_accounts {own : Option Span} {step : Option Node}
    (hpart : ∀ node, step = some node → (account R N).stepChange node)
    (hparts : ∀ place parts, step = some (.sequence place parts) → (account R N).steps parts) :
    Accounts N own (walkOption step)
      (fun changes => R.Bound R.term changes ∧ (stepParts step ≠ [] → changes ≠ []))
      (steps (stepParts step)) := by
  rcases step with _ | node
  · rw [stepParts, steps]
    exact .done ⟨.nil, fun hne => absurd rfl hne⟩
  · rw [walkOption]
    have honly : Accounts N own node.walk
        (fun changes => R.Bound R.term changes ∧ ([node] ≠ [] → changes ≠ [])) (steps [node]) := by
      rw [steps, steps]
      exact (hpart node rfl own).map fun _ hchange => ⟨.single hchange.1 hchange.2, by simp⟩
    cases node with
    | sequence place parts =>
        rw [walk]
        exact .cons rfl fun _ => hparts place parts rfl _
    | _ => exact honly

omit h in
/-- A part that may be missing is blamed if it is there, and the whole otherwise. -/
theorem blame_getD_span {α : Type} {P : α → Prop} {cause : Cause} {part : Option Node}
    {nodes : List Node} (hpart : ∀ node ∈ part, node ∈ nodes) :
    Accounts N span nodes P (.error ⟨cause, (part.map Node.span).getD span⟩) := by
  cases part with
  | none => exact .blameOwn
  | some node => exact .blame (hpart node rfl)

theorem forLoop_accounts {init test step : Option Node}
    (hinit : ∀ place declarators kind, init = some (.declaration place declarators kind) →
      (account R N).bindings declarators)
    (htest : ∀ node, test = some node → (account R N).term node)
    (hpart : ∀ node, step = some node → (account R N).stepChange node)
    (hparts : ∀ place parts, step = some (.sequence place parts) → (account R N).steps parts)
    (hbody : (account R N).body body) :
    (account R N).statement (.forLoop span init test step body) := by
  intro own
  rw [walk]
  refine .cons rfl fun hN => ?_
  have hmem (part : Option Node) : ∀ node ∈ part, node ∈ walkOption part := by
    rintro node ⟨⟩
    exact mem_walk_self node
  by_cases hdeclared : ∃ place declarators kind, init = some (.declaration place declarators kind)
  · obtain ⟨place, declarators, kind, rfl⟩ := hdeclared
    have hfirst : Accounts N span (walkOption (some (.declaration place declarators kind)))
        (R.Bound R.term) (bindings declarators) := by
      rw [walkOption, walk]
      exact .cons rfl fun _ => hinit place declarators kind rfl _
    have hcondition : Accounts N span (walkOption test) R.term (loopTest test) := by
      cases test with
      | none => exact .done h.always
      | some node => exact htest node rfl span
    -- the steps are compiled before the condition
    refine Accounts.of_mem_iff (?_ : Accounts N span
      (walkOption (some (.declaration place declarators kind)) ++
        (walkOption step ++ (walkOption test ++ body.walk))) _ _) fun node => ?_
    · rw [statement_forLoop]
      refine hfirst.bind fun _ hbound => ?_
      split
      · exact blame_getD_span fun node hnode => List.mem_append_left _ (hmem step node hnode)
      next hsteps =>
        have hne : stepParts step ≠ [] := by
          intro hnil
          simp [hnil] at hsteps
        refine (steps_stepParts_accounts hpart hparts).bind fun _ hchanges => ?_
        exact hcondition.bind fun _ hcondition => (hbody _).map fun _ hbody _ => h.forLoop
          (h.place hN) hbound hcondition (hchanges.2 hne) hchanges.1 hbody
    · simp only [List.mem_append]
      tauto
  · rw [statement]
    · refine blame_getD_span fun node hnode => ?_
      simp only [List.append_assoc]
      exact List.mem_append_left _ (hmem init node hnode)
    · rintro place declarators kind rfl
      exact hdeclared ⟨place, declarators, kind, rfl⟩

theorem notProper_accounts (hproper : node.isProperStatement = false)
    (hterm : (account R N).term node) : (account R N).statement node := by
  intro own
  by_cases hstatement : node.isStatement
  · cases node <;> simp only [isProperStatement, isStatement, reduceCtorEq] at hproper hstatement
    all_goals
      rw [statement]
      exact (hterm own).imp fun _ => h.expression
  · rw [statement_of_not_isStatement (Bool.eq_false_iff.mpr hstatement)]
    exact .blame (mem_walk_self node)

omit h in
theorem ne_null_of_isNull {v : Json} (hv : ¬ v.isNull = true) : v ≠ .null := by
  rintro rfl
  exact hv rfl

omit h in
theorem body_accounts (hstatement : (account R N).statement node)
    (hblock : ∀ span body, node = .block span body → (account R N).statements body) :
    (account R N).body node := by
  intro own
  by_cases hnode : node.isBlock
  · cases node with
    | block span body =>
        rw [walk, statementBody]
        exact .cons rfl fun _ => hblock span body rfl _
    | _ => cases hnode
  · rw [statementBody_of_not_isBlock (Bool.eq_false_iff.mpr hnode)]
    refine (hstatement own).map fun only honly => ?_
    split
    · simp
    next hnull => exact List.forall_mem_singleton.mpr (honly (ne_null_of_isNull hnull))

omit h in
theorem statements_cons_accounts {nodes : List Node} (hfirst : (account R N).statement node)
    (hrest : (account R N).statements nodes) : (account R N).statements (node :: nodes) := by
  intro own
  rw [walkAll, statements]
  refine (hfirst own).bind fun first hfirst => (hrest own).map fun others hothers => ?_
  split
  · exact hothers
  next hnull => exact List.forall_mem_cons.mpr ⟨hfirst (ne_null_of_isNull hnull), hothers⟩

end statements

/-! ### All expressions and statements -/

theorem account_closed : (account R N).Closed where
  literal span raw value pattern own := by
    refine .of_walk ?_
    rw [term_literal]
    split
    · exact .blameOwn
    · exact .ok (literal_known span raw value pattern) fun hN =>
        h.literal (hN _ (mem_walk_self _))
  identifier span name own := by
    rw [term]
    exact .ok (identifier_known span name) fun _ => h.identifier name
  member hpath own := by
    rw [walk, term]
    exact .cons rfl fun hN => (hpath _ _).check fun _ hpath =>
      .done (h.part (h.place hN) hpath.1 hpath.2.1 hpath.2.2)
  unary {_ operator _ _} hargument own := by
    rw [walk, term]
    refine .cons rfl fun hN => ?_
    cases hname : unaryFunction? operator with
    | none => exact .blameOwn
    | some name =>
        exact (hargument _).map fun _ hargument => h.application (h.place hN)
          (h.fixedName (unaryFunction?_ne_markerKey hname))
          (List.forall_mem_singleton.mpr (h.ofTerm hargument))
  binary {_ operator _ _} hleft hright own := by
    rw [walk, term]
    refine .cons rfl fun hN => ?_
    cases hname : binaryFunction? operator with
    | none => exact .blameOwn
    | some name =>
        exact (hleft _).bind fun _ hleft => (hright _).map fun _ hright =>
          h.application (h.place hN) (h.fixedName (binaryFunction?_ne_markerKey hname))
            (List.forall_mem_cons.mpr
              ⟨h.ofTerm hleft, List.forall_mem_singleton.mpr (h.ofTerm hright)⟩)
  conditional htest hconsequent halternate own := by
    rw [walk, List.append_assoc, term]
    exact .cons rfl fun hN => (htest _).bind fun _ htest => (hconsequent _).bind
      fun _ hconsequent => (halternate _).map fun _ => h.conditional (h.place hN) htest hconsequent
  call := call_accounts h
  construct := construct_accounts h
  declaration hbound own := by
    rw [walk, term]
    exact .cons rfl fun hN => (hbound _).map fun _ => h.binding (h.place hN)
  update span operator argument leading own := by
    rw [walk]
    refine .cons rfl fun hN => ?_
    cases argument with
    | identifier place name =>
        rw [term, ← List.append_nil (Node.identifier place name).walk]
        exact identifier_append h _ fun hname =>
          (updated_accounts h (h.place hN) operator name _).map fun _ hv =>
            h.assignment (h.place hN) (.single hname hv)
    | _ =>
        simp only [term]
        exact .blameOwn
  assignment := assignment_accounts h
  sequence hbound own := by
    rw [walk, term]
    exact .cons rfl fun hN => (hbound _).map fun _ => h.assignment (h.place hN)
  block hbody own := by
    rw [walk, term]
    exact .cons rfl fun hN => (hbody _).map fun _ => h.block (h.place hN)
  notExpression hnot own := by
    rw [term_of_not_isExpression hnot]
    exact .blame (mem_walk_self _)
  operand {node} hterm hdefinition own := by
    rw [operand]
    split
    · exact (hdefinition own).imp fun _ => h.ofFunction
    · cases hname : node.functionReference? with
      | none => exact (hterm own).imp fun _ => h.ofTerm
      | some name =>
          exact .ok (functionReference?_known hname) fun hN =>
            h.reference name (h.place (hN _ (mem_walk_self _)))
  definition := definition_accounts h
  elements_nil own := by
    rw [elementTerms]
    exact .done (by simp)
  elements_none hrest own := by
    rw [walkHoles, walkOption, elementTerms]
    exact hrest own
  elements_some hfirst hrest own := by
    rw [walkHoles, walkOption, elementTerms]
    exact (hfirst own).bind fun _ hfirst => (hrest own).map fun _ hrest =>
      List.forall_mem_cons.mpr ⟨hfirst, hrest⟩
  entries_nil own := by
    rw [entryTerms]
    exact .done .nil
  entries_cons := entries_cons_accounts h
  operands_nil own := by
    rw [operands]
    exact .done (by simp)
  operands_cons hfirst hrest own := by
    rw [walkAll, operands]
    exact (hfirst own).bind fun _ hfirst => (hrest own).map fun _ hrest =>
      List.forall_mem_cons.mpr ⟨hfirst, hrest⟩
  accesses := accesses_accounts h
  chain := chain_accounts
  state := state_accounts h
  contents := contents_accounts h
  bindings_nil own := by
    rw [bindings]
    exact .done .nil
  bindings_cons := bindings_cons_accounts h
  assignments_nil own := by
    rw [assignments]
    exact .done .nil
  assignments_cons := assignments_cons_accounts h
  expressionStatement hterm own := by
    rw [walk, statement]
    exact .cons rfl fun _ => (hterm _).imp fun _ => h.expression
  conditionalStatement htest hbody hothers own := by
    rw [walk, List.append_assoc, statement]
    exact .cons rfl fun hN => (htest _).bind fun _ htest => (hbody _).bind fun _ hbody =>
      (hothers _).check fun _ hothers => .done fun _ => h.choice (h.place hN)
        (h.branch (h.place hN) htest hbody) hothers.1 hothers.2
  whileLoop htest hbody own := by
    rw [walk, statement]
    exact .cons rfl fun hN => (htest _).bind fun _ htest => (hbody _).map fun _ hbody _ =>
      h.whileLoop (h.place hN) htest hbody
  doWhileLoop {span test body} htest hbody own := by
    rw [walk, statement]
    refine .cons rfl fun hN => ?_
    refine Accounts.of_mem_iff (?_ : Accounts N span (test.walk ++ body.walk) _ _) fun node => ?_
    · have hplaced : Accounts N span test.walk (fun v => R.place test.span ∧ R.term v)
          (term test) := fun hN =>
        ((htest span).imp fun _ hv => ⟨h.place (hN _ (mem_walk_self _)), hv⟩) hN
      exact hplaced.bind fun _ htest => (hbody _).map fun _ hbody _ =>
        h.untilLoop (h.place hN) htest.1 htest.2 hbody
    · rw [List.mem_append, List.mem_append, or_comm]
  forLoop := forLoop_accounts h
  forInLoop {span left right body} hright hbody own := by
    rw [walk, List.append_assoc, statement]
    refine .cons rfl fun hN => ?_
    cases hname : left.loopVariable? with
    | none => exact .blame (List.mem_append_left _ (mem_walk_self left))
    | some name =>
        exact .known_append (loopVariable?_known hname) fun _ => (hright span).bind fun _ hright =>
          (hbody span).map fun _ hbody _ => h.forEach name (h.place hN) hright hbody
  throwStatement span argument own := by
    rw [walk, statement]
    refine .cons rfl fun hN => ?_
    cases htext : argument.text? with
    | none => exact .blameOwn
    | some text => exact .ok (text?_known htext) fun _ _ => h.error text (h.place hN)
  empty span own := by
    rw [walk, statement]
    exact .ok (known_nil.cons rfl) fun _ hnull => absurd rfl hnull
  notProper := notProper_accounts h
  statements_nil own := by
    rw [statements]
    exact .done (by simp)
  statements_cons := statements_cons_accounts
  body := body_accounts
  alternatives_none own := by
    rw [alternatives]
    exact .done ⟨by simp, by simp⟩
  alternatives_some := alternatives_some_accounts h
  stepChange := stepChange_accounts h
  steps_nil own := by
    rw [steps]
    exact .done ⟨.nil, fun hne => absurd rfl hne⟩
  steps_cons hfirst hrest own := by
    rw [walkAll, steps]
    exact (hfirst own).bind fun _ hfirst => (hrest own).map fun _ hrest =>
      ⟨hrest.1.cons hfirst.1 hfirst.2, by simp⟩

end Node

/-! ### Results of the compiler -/

namespace Results.Closed

open Node

variable {R : Results} {N : Node → Prop} (h : R.Closed N)

include h

theorem of_term (node : Node) (hN : ∀ below ∈ node.walk, N below) (v : Json)
    (hv : node.term = .ok v) : R.term v :=
  (((account_closed h).of_term node none).of_ok hN hv).2

theorem of_operand (node : Node) (hN : ∀ below ∈ node.walk, N below) (v : Json)
    (hv : node.operand = .ok v) : R.operand v :=
  (((account_closed h).of_operand node none).of_ok hN hv).2

theorem of_definition (node : Node) (hN : ∀ below ∈ node.walk, N below) (v : Json)
    (hv : node.definition = .ok v) : R.definition v :=
  (((account_closed h).of_definition node none).of_ok hN hv).2

theorem of_statements (nodes : List Node) (hN : ∀ below ∈ walkAll nodes, N below)
    (items : List Json) (hitems : statements nodes = .ok items) :
    ∀ item ∈ items, R.statement item :=
  (((account_closed h).of_statements nodes none).of_ok hN hitems).2

end Results.Closed

end PfaScript
