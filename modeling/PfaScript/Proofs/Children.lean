import Mathlib.Data.List.ReduceOption
import PfaScript.Script.Node

/-!
# Children of a node

`Node.children` lists the nodes right below a node. The walk of a node is the node and the walks of
its children (`Node.walk_eq`), and a property that passes from the children of a node to the node
holds of every tree (`Node.induction_children`).
-/

namespace PfaScript

namespace Node

/-- The nodes right below a node, in source order. -/
def children : Node → List Node
  | .literal .. | .identifier .. | .empty _ | .unsupported .. => []
  | .array _ elements => elements.reduceOption
  | .property _ key value _ _ => [key, value]
  | .object _ properties => properties
  | .member _ base access _ => [base, access]
  | .unary _ _ argument _ => [argument]
  | .binary _ _ left right => [left, right]
  | .conditional _ test consequent alternate => [test, consequent, alternate]
  | .call _ callee arguments => callee :: arguments
  | .construct _ callee arguments => callee :: arguments
  | .function _ params body id rest _ =>
    params.map Param.target ++ (params.map Param.initial).reduceOption ++ [body] ++ id.toList ++
      rest.toList
  | .declarator d => d.target :: d.init.toList
  | .declaration _ declarators _ => declarators.map .declarator
  | .assignment _ _ left right => [left, right]
  | .update _ _ argument _ => [argument]
  | .sequence _ expressions => expressions
  | .block _ body => body
  | .expressionStatement _ inner => [inner]
  | .conditionalStatement _ test consequent alternate => test :: consequent :: alternate.toList
  | .whileLoop _ test body => [test, body]
  | .doWhileLoop _ body test => [body, test]
  | .forLoop _ init test step body => init.toList ++ test.toList ++ step.toList ++ [body]
  | .forInLoop _ left right body => [left, right, body]
  | .throwStatement _ argument => [argument]
  | .program _ body => body

/-! ### Walks -/

/-- Lists of nodes are walked through node by node. -/
theorem walkAll_eq (nodes : List Node) : walkAll nodes = nodes.flatMap walk := by
  induction nodes with
  | nil => rfl
  | cons node rest ih => rw [walkAll, ih, List.flatMap_cons]

theorem walkOption_eq (node : Option Node) : walkOption node = node.toList.flatMap walk := by
  cases node <;> simp [walkOption]

theorem walkHoles_eq (elements : List (Option Node)) :
    walkHoles elements = elements.reduceOption.flatMap walk := by
  induction elements with
  | nil => rfl
  | cons element rest ih =>
      cases element with
      | none => rw [walkHoles, ih, walkOption, List.reduceOption_cons_of_none, List.nil_append]
      | some node =>
          rw [walkHoles, ih, walkOption, List.reduceOption_cons_of_some, List.flatMap_cons]

theorem walkTargets_eq (params : List (Param Node)) :
    walkTargets params = (params.map Param.target).flatMap walk := by
  induction params with
  | nil => rfl
  | cons param rest ih => rw [walkTargets, ih, List.map_cons, List.flatMap_cons]

theorem walkDefaults_eq (params : List (Param Node)) :
    walkDefaults params = (params.map Param.initial).reduceOption.flatMap walk := by
  rw [← walkHoles_eq]
  induction params with
  | nil => rfl
  | cons param rest ih => rw [walkDefaults, ih, List.map_cons, walkHoles]

theorem walkDeclarators_eq (declarators : List (Declarator Node)) :
    walkDeclarators declarators = (declarators.map .declarator).flatMap walk := by
  induction declarators with
  | nil => rfl
  | cons d rest ih => rw [walkDeclarators, ih, List.map_cons, List.flatMap_cons, walk]

/-- The walk of a node is the node and the walks of its children. -/
theorem walk_eq (node : Node) : node.walk = node :: node.children.flatMap walk := by
  cases node <;>
    simp [walk, children, walkAll_eq, walkOption_eq, walkHoles_eq, walkTargets_eq, walkDefaults_eq,
      walkDeclarators_eq]

/-- A walk through a node comes to the node itself. -/
theorem mem_walk_self (node : Node) : node ∈ node.walk := by
  rw [walk_eq]
  exact List.mem_cons_self

theorem target_mem_walkTargets (target : Node) (initial : Option Node) (rest : List (Param Node)) :
    target ∈ walkTargets (⟨target, initial⟩ :: rest) := by
  rw [walkTargets]
  exact List.mem_append_left _ (mem_walk_self target)

/-- A walk through a node comes to all that its children hold. -/
theorem mem_walk_of_mem_children {node child n : Node} (hchild : child ∈ node.children)
    (hn : n ∈ child.walk) : n ∈ node.walk := by
  rw [walk_eq]
  exact List.mem_cons_of_mem _ (List.mem_flatMap.mpr ⟨child, hchild, hn⟩)

/-! ### Induction -/

theorem sizeOf_lt_of_mem_toList {node : Node} {child : Option Node} (h : node ∈ child.toList) :
    sizeOf node < sizeOf child := by
  cases child with
  | none => cases h
  | some child =>
      rw [Option.toList_some, List.mem_singleton] at h
      simp [h]

theorem sizeOf_lt_of_mem_reduceOption {node : Node} {elements : List (Option Node)}
    (h : node ∈ elements.reduceOption) : sizeOf node < sizeOf elements := by
  have hmem := List.sizeOf_lt_of_mem (List.reduceOption_mem_iff.mp h)
  rw [Option.some.sizeOf_spec] at hmem
  omega

theorem sizeOf_lt_of_mem_targets {node : Node} {params : List (Param Node)}
    (h : node ∈ params.map Param.target) : sizeOf node < sizeOf params := by
  obtain ⟨⟨target, initial⟩, hparam, rfl⟩ := List.mem_map.mp h
  have hmem := List.sizeOf_lt_of_mem hparam
  rw [Param.mk.sizeOf_spec] at hmem
  dsimp only
  omega

theorem sizeOf_lt_of_mem_initials {node : Node} {params : List (Param Node)}
    (h : node ∈ (params.map Param.initial).reduceOption) : sizeOf node < sizeOf params := by
  obtain ⟨⟨target, initial⟩, hparam, rfl⟩ := List.mem_map.mp (List.reduceOption_mem_iff.mp h)
  have hmem := List.sizeOf_lt_of_mem hparam
  rw [Param.mk.sizeOf_spec, Option.some.sizeOf_spec] at hmem
  omega

theorem sizeOf_lt_of_mem_declarators {node : Node} {declarators : List (Declarator Node)}
    (h : node ∈ declarators.map .declarator) : sizeOf node < 1 + sizeOf declarators := by
  obtain ⟨d, hd, rfl⟩ := List.mem_map.mp h
  have hmem := List.sizeOf_lt_of_mem hd
  rw [Node.declarator.sizeOf_spec]
  omega

/-- Children are smaller than their node. -/
theorem sizeOf_lt_of_mem_children {node child : Node} (h : child ∈ node.children) :
    sizeOf child < sizeOf node := by
  cases node with
  | declarator d =>
      obtain ⟨place, target, init⟩ := d
      rw [children, List.mem_cons] at h
      grind [→ sizeOf_lt_of_mem_toList]
  | _ =>
      simp only [children, List.mem_cons, List.mem_append] at h
      grind [→ sizeOf_lt_of_mem_toList, → sizeOf_lt_of_mem_reduceOption,
        → sizeOf_lt_of_mem_targets, → sizeOf_lt_of_mem_initials, → sizeOf_lt_of_mem_declarators,
        → List.sizeOf_lt_of_mem]

/-- What passes from the children of a node to the node holds of every tree. -/
@[elab_as_elim]
theorem induction_children {P : Node → Prop}
    (step : ∀ node, (∀ child ∈ node.children, P child) → P node) (node : Node) : P node :=
  step node fun child _hchild => induction_children step child
termination_by sizeOf node
decreasing_by exact sizeOf_lt_of_mem_children _hchild

end Node

end PfaScript
