import Mathlib
import PfaScript.Proofs.Children

/-!
# Places in trees

A place in a tree is given by the tree as a function of what stands there. `Node.Frame` lists the
places right below a node, and a `Node.Context` goes down through any number of them. Nothing is
left out: every node of a walk stands in a context (`Node.exists_context`), declarators apart, whose
own parts stand in places of the declaration.
-/

namespace PfaScript

namespace Node

/-- The places right below a node, as functions from what stands there to the node. The places in
the declarators of a declaration count as places of the declaration. -/
inductive Frame : (Node → Node) → Prop
  | element (span before after) : Frame fun node => .array span (before ++ some node :: after)
  | key (span value kind computed) : Frame fun node => .property span node value kind computed
  | value (span key kind computed) : Frame fun node => .property span key node kind computed
  | property (span before after) : Frame fun node => .object span (before ++ node :: after)
  | base (span access computed) : Frame fun node => .member span node access computed
  | access (span base computed) : Frame fun node => .member span base node computed
  | unary (span operator leading) : Frame fun node => .unary span operator node leading
  | binaryLeft (span operator right) : Frame fun node => .binary span operator node right
  | binaryRight (span operator left) : Frame fun node => .binary span operator left node
  | chooseTest (span consequent alternate) :
    Frame fun node => .conditional span node consequent alternate
  | chooseFirst (span test alternate) : Frame fun node => .conditional span test node alternate
  | chooseSecond (span test consequent) : Frame fun node => .conditional span test consequent node
  | callee (span arguments) : Frame fun node => .call span node arguments
  | argument (span callee before after) :
    Frame fun node => .call span callee (before ++ node :: after)
  | constructor (span arguments) : Frame fun node => .construct span node arguments
  | content (span callee before after) :
    Frame fun node => .construct span callee (before ++ node :: after)
  | parameter (span before initial after body id rest flags) :
    Frame fun node => .function span (before ++ ⟨node, initial⟩ :: after) body id rest flags
  | default (span before target after body id rest flags) :
    Frame fun node => .function span (before ++ ⟨target, some node⟩ :: after) body id rest flags
  | functionBody (span params id rest flags) :
    Frame fun node => .function span params node id rest flags
  | functionId (span params body rest flags) :
    Frame fun node => .function span params body (some node) rest flags
  | functionRest (span params body id flags) :
    Frame fun node => .function span params body id (some node) flags
  | target (span init) : Frame fun node => .declarator ⟨span, node, init⟩
  | init (span target) : Frame fun node => .declarator ⟨span, target, some node⟩
  | declaredTarget (span before place init after kind) :
    Frame fun node => .declaration span (before ++ ⟨place, node, init⟩ :: after) kind
  | declaredInit (span before place target after kind) :
    Frame fun node => .declaration span (before ++ ⟨place, target, some node⟩ :: after) kind
  | assigned (span operator right) : Frame fun node => .assignment span operator node right
  | assignedValue (span operator left) : Frame fun node => .assignment span operator left node
  | updated (span operator leading) : Frame fun node => .update span operator node leading
  | item (span before after) : Frame fun node => .sequence span (before ++ node :: after)
  | statement (span before after) : Frame fun node => .block span (before ++ node :: after)
  | expression (span) : Frame fun node => .expressionStatement span node
  | test (span consequent alternate) :
    Frame fun node => .conditionalStatement span node consequent alternate
  | consequent (span test alternate) :
    Frame fun node => .conditionalStatement span test node alternate
  | alternate (span test consequent) :
    Frame fun node => .conditionalStatement span test consequent (some node)
  | whileTest (span body) : Frame fun node => .whileLoop span node body
  | whileBody (span test) : Frame fun node => .whileLoop span test node
  | doWhileBody (span test) : Frame fun node => .doWhileLoop span node test
  | doWhileTest (span body) : Frame fun node => .doWhileLoop span body node
  | forInit (span test step body) : Frame fun node => .forLoop span (some node) test step body
  | forTest (span init step body) : Frame fun node => .forLoop span init (some node) step body
  | forStep (span init test body) : Frame fun node => .forLoop span init test (some node) body
  | forBody (span init test step) : Frame fun node => .forLoop span init test step node
  | forInLeft (span right body) : Frame fun node => .forInLoop span node right body
  | forInRight (span left body) : Frame fun node => .forInLoop span left node body
  | forInBody (span left right) : Frame fun node => .forInLoop span left right node
  | thrown (span) : Frame fun node => .throwStatement span node
  | programStatement (span before after) : Frame fun node => .program span (before ++ node :: after)

/-- The places at any depth of a tree, as functions from what stands there to the tree. -/
inductive Context : (Node → Node) → Prop
  | here : Context fun node => node
  | inside {frame context : Node → Node} (hframe : Frame frame) (hcontext : Context context) :
    Context fun node => frame (context node)

/-! ### Every node stands in a context -/

/-- Whether a node is a declarator. -/
def isDeclarator : Node → Bool
  | .declarator .. => true
  | _ => false

/-- A child stands in a place right below its parent, unless the parent is a declaration. -/
theorem exists_frame {node child : Node} (h : child ∈ node.children)
    (hnode : ¬ ∃ span declarators kind, node = .declaration span declarators kind) :
    ∃ frame, Frame frame ∧ frame child = node := by
  cases node <;>
    simp only [children, List.mem_cons, List.mem_append, List.mem_map, List.not_mem_nil, or_false,
      List.reduceOption_mem_iff, Option.mem_toList] at h
  case declaration => exact absurd ⟨_, _, _, rfl⟩ hnode
  case array =>
    obtain ⟨before, after, rfl⟩ := List.append_of_mem h
    exact ⟨_, .element .., rfl⟩
  case object =>
    obtain ⟨before, after, rfl⟩ := List.append_of_mem h
    exact ⟨_, .property .., rfl⟩
  case sequence =>
    obtain ⟨before, after, rfl⟩ := List.append_of_mem h
    exact ⟨_, .item .., rfl⟩
  case block =>
    obtain ⟨before, after, rfl⟩ := List.append_of_mem h
    exact ⟨_, .statement .., rfl⟩
  case program =>
    obtain ⟨before, after, rfl⟩ := List.append_of_mem h
    exact ⟨_, .programStatement .., rfl⟩
  case call =>
    rcases h with rfl | h
    · exact ⟨_, .callee .., rfl⟩
    · obtain ⟨before, after, rfl⟩ := List.append_of_mem h
      exact ⟨_, .argument .., rfl⟩
  case construct =>
    rcases h with rfl | h
    · exact ⟨_, .constructor .., rfl⟩
    · obtain ⟨before, after, rfl⟩ := List.append_of_mem h
      exact ⟨_, .content .., rfl⟩
  case function =>
    rcases h with (((⟨param, hparam, rfl⟩ | ⟨param, hparam, hinitial⟩) | rfl) | rfl) | rfl
    · obtain ⟨before, after, rfl⟩ := List.append_of_mem hparam
      exact ⟨_, .parameter .., rfl⟩
    · obtain ⟨before, after, rfl⟩ := List.append_of_mem hparam
      obtain ⟨target, initial⟩ := param
      cases hinitial
      exact ⟨_, .default .., rfl⟩
    · exact ⟨_, .functionBody .., rfl⟩
    · exact ⟨_, .functionId .., rfl⟩
    · exact ⟨_, .functionRest .., rfl⟩
  case declarator d =>
    obtain ⟨span, target, init⟩ := d
    rcases h with rfl | rfl
    · exact ⟨_, .target .., rfl⟩
    · exact ⟨_, .init .., rfl⟩
  case property =>
    rcases h with rfl | rfl
    · exact ⟨_, .key .., rfl⟩
    · exact ⟨_, .value .., rfl⟩
  case member =>
    rcases h with rfl | rfl
    · exact ⟨_, .base .., rfl⟩
    · exact ⟨_, .access .., rfl⟩
  case unary => exact h ▸ ⟨_, .unary .., rfl⟩
  case binary =>
    rcases h with rfl | rfl
    · exact ⟨_, .binaryLeft .., rfl⟩
    · exact ⟨_, .binaryRight .., rfl⟩
  case conditional =>
    rcases h with rfl | rfl | rfl
    · exact ⟨_, .chooseTest .., rfl⟩
    · exact ⟨_, .chooseFirst .., rfl⟩
    · exact ⟨_, .chooseSecond .., rfl⟩
  case assignment =>
    rcases h with rfl | rfl
    · exact ⟨_, .assigned .., rfl⟩
    · exact ⟨_, .assignedValue .., rfl⟩
  case update => exact h ▸ ⟨_, .updated .., rfl⟩
  case expressionStatement => exact h ▸ ⟨_, .expression .., rfl⟩
  case conditionalStatement =>
    rcases h with rfl | rfl | rfl
    · exact ⟨_, .test .., rfl⟩
    · exact ⟨_, .consequent .., rfl⟩
    · exact ⟨_, .alternate .., rfl⟩
  case whileLoop =>
    rcases h with rfl | rfl
    · exact ⟨_, .whileTest .., rfl⟩
    · exact ⟨_, .whileBody .., rfl⟩
  case doWhileLoop =>
    rcases h with rfl | rfl
    · exact ⟨_, .doWhileBody .., rfl⟩
    · exact ⟨_, .doWhileTest .., rfl⟩
  case forLoop =>
    rcases h with ((rfl | rfl) | rfl) | rfl
    · exact ⟨_, .forInit .., rfl⟩
    · exact ⟨_, .forTest .., rfl⟩
    · exact ⟨_, .forStep .., rfl⟩
    · exact ⟨_, .forBody .., rfl⟩
  case forInLoop =>
    rcases h with rfl | rfl | rfl
    · exact ⟨_, .forInLeft .., rfl⟩
    · exact ⟨_, .forInRight .., rfl⟩
    · exact ⟨_, .forInBody .., rfl⟩
  case throwStatement => exact h ▸ ⟨_, .thrown .., rfl⟩

/-- A part of a declarator stands in a place of the declaration. -/
theorem exists_frame_of_mem_declarators {span : Option Span} {declarators : List (Declarator Node)}
    {kind : String} {d : Declarator Node} {child : Node} (hd : d ∈ declarators)
    (h : child ∈ (declarator d).children) :
    ∃ frame, Frame frame ∧ frame child = .declaration span declarators kind := by
  obtain ⟨before, after, rfl⟩ := List.append_of_mem hd
  obtain ⟨place, target, init⟩ := d
  rcases List.mem_cons.mp h with rfl | h
  · exact ⟨_, .declaredTarget .., rfl⟩
  · obtain rfl := Option.mem_toList.mp h
    exact ⟨_, .declaredInit .., rfl⟩

/-- Every node of a walk but a declarator stands in a context. -/
theorem exists_context {node inner : Node} (h : inner ∈ node.walk)
    (hinner : inner.isDeclarator = false) :
    ∃ context, Context context ∧ context inner = node := by
  rw [walk_eq, List.mem_cons, List.mem_flatMap] at h
  rcases h with rfl | ⟨child, hchild, h⟩
  · exact ⟨_, .here .., rfl⟩
  · have hsize := sizeOf_lt_of_mem_children hchild
    by_cases hnode : ∃ span declarators kind, node = .declaration span declarators kind
    · -- a declarator is no place, but its parts are
      obtain ⟨span, declarators, kind, hnode⟩ := hnode
      rw [hnode] at hchild
      obtain ⟨d, hd, rfl⟩ := List.mem_map.mp hchild
      rw [walk_eq, List.mem_cons, List.mem_flatMap] at h
      rcases h with rfl | ⟨part, hpart, h⟩
      · cases hinner
      · have hless := (sizeOf_lt_of_mem_children hpart).trans hsize
        obtain ⟨context, hcontext, rfl⟩ := exists_context h hinner
        obtain ⟨frame, hframe, hwhole⟩ := exists_frame_of_mem_declarators hd hpart
        exact ⟨_, .inside hframe hcontext, hwhole.trans hnode.symm⟩
    · obtain ⟨context, hcontext, rfl⟩ := exists_context h hinner
      obtain ⟨frame, hframe, hnode⟩ := exists_frame hchild hnode
      exact ⟨_, .inside hframe hcontext, hnode⟩
termination_by sizeOf node
decreasing_by
  · exact hless
  · exact hsize

end Node

end PfaScript
