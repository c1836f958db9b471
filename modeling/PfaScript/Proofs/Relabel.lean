import PfaScript.Proofs.Children
import PfaScript.Proofs.Equation

/-!
# Relabelled trees

Beside its construct, a node carries its place in the source file and, for literals and unknown
constructs, parts of the form in which it was written. A `Relabelling` changes these labels
throughout a tree and nothing else. Two trees are equal up to labels if they become equal once all
labels are dropped (`Program.bare`); `Program.unplaced` drops the places only. The walk of a
relabelled tree is the relabelled walk (`Node.walk_relabel`), and a relabelling that changes nothing
leaves a tree as it is (`Node.relabel_same`).
-/

namespace PfaScript

/-- A change of the labels of nodes: their places, the written forms of literals, and the payloads
of unknown constructs. -/
structure Relabelling where
  span : Option Span → Option Span
  raw : Option Json → Option Json
  payload : List (String × Json) → List (String × Json)

namespace Relabelling

/-- Changes nothing. -/
def same : Relabelling where
  span := id
  raw := id
  payload := id

/-- Drops all labels. -/
def bare : Relabelling where
  span _ := none
  raw _ := none
  payload _ := []

/-- Drops the places and keeps all else. -/
def unplaced : Relabelling where
  span _ := none
  raw := id
  payload := id

end Relabelling

namespace Node

mutual

/-- The tree with its labels changed. -/
@[simp] def relabel (r : Relabelling) : Node → Node
  | .literal span raw value pattern => .literal (r.span span) (r.raw raw) value pattern
  | .identifier span name => .identifier (r.span span) name
  | .array span elements => .array (r.span span) (relabelHoles r elements)
  | .property span key value kind computed =>
    .property (r.span span) (relabel r key) (relabel r value) kind computed
  | .object span properties => .object (r.span span) (relabelAll r properties)
  | .member span base access computed =>
    .member (r.span span) (relabel r base) (relabel r access) computed
  | .unary span operator argument leading =>
    .unary (r.span span) operator (relabel r argument) leading
  | .binary span operator left right =>
    .binary (r.span span) operator (relabel r left) (relabel r right)
  | .conditional span test consequent alternate =>
    .conditional (r.span span) (relabel r test) (relabel r consequent) (relabel r alternate)
  | .call span callee arguments =>
    .call (r.span span) (relabel r callee) (relabelAll r arguments)
  | .construct span callee arguments =>
    .construct (r.span span) (relabel r callee) (relabelAll r arguments)
  | .function span params body id rest flags =>
    .function (r.span span) (relabelParams r params) (relabel r body) (relabelOption r id)
      (relabelOption r rest) flags
  | .declarator ⟨span, target, init⟩ =>
    .declarator ⟨r.span span, relabel r target, relabelOption r init⟩
  | .declaration span declarators kind =>
    .declaration (r.span span) (relabelDeclarators r declarators) kind
  | .assignment span operator left right =>
    .assignment (r.span span) operator (relabel r left) (relabel r right)
  | .update span operator argument leading =>
    .update (r.span span) operator (relabel r argument) leading
  | .sequence span expressions => .sequence (r.span span) (relabelAll r expressions)
  | .block span body => .block (r.span span) (relabelAll r body)
  | .expressionStatement span inner => .expressionStatement (r.span span) (relabel r inner)
  | .conditionalStatement span test consequent alternate =>
    .conditionalStatement (r.span span) (relabel r test) (relabel r consequent)
      (relabelOption r alternate)
  | .whileLoop span test body => .whileLoop (r.span span) (relabel r test) (relabel r body)
  | .doWhileLoop span body test => .doWhileLoop (r.span span) (relabel r body) (relabel r test)
  | .forLoop span init test step body =>
    .forLoop (r.span span) (relabelOption r init) (relabelOption r test) (relabelOption r step)
      (relabel r body)
  | .forInLoop span left right body =>
    .forInLoop (r.span span) (relabel r left) (relabel r right) (relabel r body)
  | .throwStatement span argument => .throwStatement (r.span span) (relabel r argument)
  | .empty span => .empty (r.span span)
  | .program span body => .program (r.span span) (relabelAll r body)
  | .unsupported span tag payload => .unsupported (r.span span) tag (r.payload payload)

/-- The nodes of a list with their labels changed. -/
@[simp] def relabelAll (r : Relabelling) : List Node → List Node
  | [] => []
  | node :: rest => relabel r node :: relabelAll r rest

/-- A node that may be missing, with its labels changed. -/
@[simp] def relabelOption (r : Relabelling) : Option Node → Option Node
  | none => none
  | some node => some (relabel r node)

/-- The elements of an array with their labels changed. -/
@[simp] def relabelHoles (r : Relabelling) : List (Option Node) → List (Option Node)
  | [] => []
  | element :: rest => relabelOption r element :: relabelHoles r rest

/-- The parameters of a function with their labels changed. -/
@[simp] def relabelParams (r : Relabelling) : List (Param Node) → List (Param Node)
  | [] => []
  | ⟨target, initial⟩ :: rest =>
    ⟨relabel r target, relabelOption r initial⟩ :: relabelParams r rest

/-- The declarators of a declaration with their labels changed. -/
@[simp] def relabelDeclarators (r : Relabelling) : List (Declarator Node) → List (Declarator Node)
  | [] => []
  | ⟨span, target, init⟩ :: rest =>
    ⟨r.span span, relabel r target, relabelOption r init⟩ :: relabelDeclarators r rest

end

end Node

namespace Program

/-- The script with its labels changed. -/
def relabel (r : Relabelling) (program : Program) : Program :=
  ⟨r.span program.span, Node.relabelAll r program.body⟩

/-- The script without labels. -/
def bare (program : Program) : Program := program.relabel .bare

/-- The script without places. -/
def unplaced (program : Program) : Program := program.relabel .unplaced

end Program

namespace Node

variable (r : Relabelling)

/-! ### Lists of nodes -/

theorem relabelHoles_tail (elements : List (Option Node)) :
    relabelHoles r elements.tail = (relabelHoles r elements).tail := by
  cases elements <;> rfl

theorem relabelOption_head? (elements : List (Option Node)) :
    relabelOption r elements.head?.join = (relabelHoles r elements).head?.join := by
  rcases elements with _ | ⟨_ | element, rest⟩ <;> rfl

theorem relabelOption_orElse (first second : Option Node) :
    relabelOption r (first <|> second) = (relabelOption r first <|> relabelOption r second) := by
  cases first <;> rfl

/-- Lists of nodes are relabelled node by node. -/
theorem relabelAll_eq_map (nodes : List Node) : relabelAll r nodes = nodes.map (relabel r) := by
  induction nodes with
  | nil => rfl
  | cons node rest ih => rw [relabelAll, ih, List.map_cons]

theorem relabelOption_eq_map (node : Option Node) :
    relabelOption r node = node.map (relabel r) := by
  cases node <;> rfl

theorem relabelHoles_eq_map (elements : List (Option Node)) :
    relabelHoles r elements = elements.map (Option.map (relabel r)) := by
  induction elements with
  | nil => rfl
  | cons element rest ih => rw [relabelHoles, ih, relabelOption_eq_map, List.map_cons]

theorem relabelAll_reduceOption (elements : List (Option Node)) :
    relabelAll r elements.reduceOption = (relabelHoles r elements).reduceOption := by
  rw [relabelAll_eq_map, relabelHoles_eq_map, List.reduceOption_map]

/-- Labels do not matter for what is declared. -/
theorem declarators_relabelAll (nodes : List Node) :
    Load.declarators (relabelAll r nodes) =
      (Load.declarators nodes).map (relabelDeclarators r) := by
  induction nodes with
  | nil => rfl
  | cons node rest ih =>
      cases node with
      | declarator d =>
          simp only [relabelAll, relabel, Load.declarators, ih]
          cases Load.declarators rest <;> rfl
      | _ => rfl

/-! ### Walks -/

@[simp] theorem tag_relabel (node : Node) : (relabel r node).tag = node.tag := by
  cases node <;> simp only [relabel, tag]

@[simp] theorem span_relabel (node : Node) : (relabel r node).span = r.span node.span := by
  cases node <;> simp only [relabel, span]

theorem relabelParams_eq_map (params : List (Param Node)) :
    relabelParams r params =
      params.map fun param => ⟨relabel r param.target, param.initial.map (relabel r)⟩ := by
  induction params with
  | nil => rfl
  | cons param rest ih => rw [relabelParams, ih, relabelOption_eq_map, List.map_cons]

theorem relabelDeclarators_eq_map (declarators : List (Declarator Node)) :
    relabelDeclarators r declarators =
      declarators.map fun d => ⟨r.span d.span, relabel r d.target, d.init.map (relabel r)⟩ := by
  induction declarators with
  | nil => rfl
  | cons d rest ih => rw [relabelDeclarators, ih, relabelOption_eq_map, List.map_cons]

/-- The children of a relabelled node are its children relabelled. -/
theorem children_relabel (node : Node) :
    (relabel r node).children = node.children.map (relabel r) := by
  cases node <;>
    simp [children, relabelAll_eq_map, relabelOption_eq_map, relabelHoles_eq_map,
      relabelParams_eq_map, relabelDeclarators_eq_map, ← List.reduceOption_map, Option.toList_map,
      Function.comp_def]

/-- The walk of a relabelled tree is the relabelled walk. -/
theorem walk_relabel (node : Node) : (relabel r node).walk = node.walk.map (relabel r) := by
  induction node using induction_children with
  | step node ih =>
      rw [walk_eq, walk_eq, children_relabel, List.map_cons, List.flatMap_map, List.map_flatMap]
      exact congrArg (_ :: ·) (List.flatMap_congr ih)

/-! ### Relabelling that changes nothing -/

theorem map_eq_self {α : Type} {f : α → α} {l : List α} (h : ∀ a ∈ l, f a = a) : l.map f = l :=
  (List.map_congr_left h).trans (List.map_id l)

theorem optionMap_eq_self {f : Node → Node} {node : Option Node}
    (h : ∀ n, node = some n → f n = n) : node.map f = node := by
  cases node with
  | none => rfl
  | some node => exact congrArg some (h node rfl)

/-- If labels stay the same, nodes do. -/
theorem relabel_same (node : Node) : relabel .same node = node := by
  induction node using induction_children with
  | step node ih =>
      cases node with
      | array span elements =>
          rw [relabel, relabelHoles_eq_map, map_eq_self]
          · rfl
          · intro element h
            exact optionMap_eq_self fun n hn => ih n (List.reduceOption_mem_iff.mpr (hn ▸ h))
      | function span params body id rest flags =>
          simp only [children, List.mem_append, List.mem_map, List.reduceOption_mem_iff,
            List.mem_singleton, Option.mem_toList] at ih
          rw [relabel, relabelParams_eq_map, map_eq_self]
          · simp_all [Relabelling.same, relabelOption_eq_map, optionMap_eq_self]
          · intro param h
            rw [ih param.target (by grind), optionMap_eq_self fun n hn => ih n (by grind)]
      | declaration span declarators kind =>
          rw [relabel, relabelDeclarators_eq_map, map_eq_self]
          · rfl
          · intro d hd
            simpa [relabelOption_eq_map] using ih _ (List.mem_map_of_mem hd)
      | _ =>
          simp_all [children, relabelAll_eq_map, relabelOption_eq_map, map_eq_self,
            optionMap_eq_self, Relabelling.same]

end Node

end PfaScript
