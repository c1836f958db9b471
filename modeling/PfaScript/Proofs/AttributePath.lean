import Mathlib
import PfaScript.Proofs.Inversion

/-!
# Attribute paths

A member access applied to a member access, and so on, is a base with accesses, the first of them
innermost (`Node.accessed`). Every expression is of this form in exactly one way, with
`Node.root` and `Node.spine` (`Node.root_accessed`, `Node.spine_accessed`). The accesses are
compiled from the last one to the first, and the base after them.

**Theorem** (`Node.attribute_path_in_order`): the term has the segments of the path in source order.
It is made if every access gives a segment and the base has a term; otherwise the fault is that of
the last access that gives none, or that of the base if all accesses do.
-/

namespace PfaScript

open Node (term)

/-- A member access without what it is applied to. -/
structure Access where
  /-- The place of the whole expression, up to this access. -/
  span : Option Span
  property : Node
  computed : Bool

namespace Access

/-- The access applied to an expression. -/
def onto (base : Node) (access : Access) : Node :=
  .member access.span base access.property access.computed

/-- The access can be compiled: what stands after a point is a name, what stands in brackets is an
expression with a term. -/
def Accepted (access : Access) : Prop :=
  (access.computed = false → ∃ place name, access.property = .identifier place name) ∧
    (access.computed = true → ∃ v, term access.property = .ok v)

/-- The segment of a path that an access stands for. -/
inductive Gives : Access → Json → Prop
  | named (span place : Option Span) (name : String) :
    Gives ⟨span, .identifier place name, false⟩ (tagged place [("string", .str name)])
  | computed {span : Option Span} {property : Node} {v : Json} (h : term property = .ok v) :
    Gives ⟨span, property, true⟩ v

/-- The fault of an access that stands for no segment. -/
inductive Fails : Access → Fault → Prop
  | named {span : Option Span} {property : Node}
    (h : ∀ place name, property ≠ .identifier place name) :
    Fails ⟨span, property, false⟩ ⟨.memberAccess, span⟩
  | computed {span : Option Span} {property : Node} {fault : Fault}
    (h : term property = .error fault) : Fails ⟨span, property, true⟩ fault

/-- The segment of an access as it is compiled. -/
def segment (access : Access) : Except Fault Json :=
  Node.accessStep access.span access.property access.computed

theorem segment_named_of_forall {span : Option Span} {property : Node}
    (h : ∀ place name, property ≠ .identifier place name) :
    segment ⟨span, property, false⟩ = .error ⟨.memberAccess, span⟩ := by
  cases property with
  | identifier place name => exact absurd rfl (h place name)
  | _ => rfl

theorem segment_eq_ok_iff {access : Access} {v : Json} :
    access.segment = .ok v ↔ access.Gives v := by
  obtain ⟨span, property, computed⟩ := access
  constructor
  · intro h
    cases computed with
    | true => exact .computed h
    | false =>
        cases property with
        | identifier place name =>
            cases h
            exact .named span place name
        | _ => cases h
  · rintro (⟨_, place, name⟩ | h)
    · rfl
    · exact h

theorem segment_eq_error_iff {access : Access} {fault : Fault} :
    access.segment = .error fault ↔ access.Fails fault := by
  obtain ⟨span, property, computed⟩ := access
  constructor
  · intro h
    cases computed with
    | true => exact .computed h
    | false =>
        have hname : ∀ place name, property ≠ .identifier place name := by
          rintro place name rfl
          cases h
        rw [segment_named_of_forall hname] at h
        cases h
        exact .named hname
  · rintro (hname | h)
    · exact segment_named_of_forall hname
    · exact h

theorem accepted_iff {access : Access} : access.Accepted ↔ ∃ v, access.segment = .ok v := by
  obtain ⟨span, property, computed⟩ := access
  cases computed with
  | true => simp [Accepted, segment, Node.accessStep]
  | false =>
      constructor
      · intro h
        obtain ⟨place, name, rfl⟩ := h.1 rfl
        exact ⟨_, rfl⟩
      · rintro ⟨v, hv⟩
        obtain ⟨_, place, name⟩ := segment_eq_ok_iff.mp hv
        exact ⟨fun _ => ⟨place, name, rfl⟩, by rintro ⟨⟩⟩

/-- The last of the accesses that fail fails so. -/
def LastFails (accesses : List Access) (fault : Fault) : Prop :=
  ∃ inner access outer, accesses = inner ++ access :: outer ∧ access.Fails fault ∧
    ∀ later ∈ outer, later.Accepted

theorem not_lastFails_nil (fault : Fault) : ¬ LastFails [] fault := by
  rintro ⟨inner, access, outer, h, -⟩
  simp at h

theorem lastFails_concat_iff {accesses : List Access} {access : Access} {fault : Fault} :
    LastFails (accesses ++ [access]) fault ↔
      access.Fails fault ∨ access.Accepted ∧ LastFails accesses fault := by
  constructor
  · rintro ⟨inner, failing, outer, h, hfails, houter⟩
    rcases List.eq_nil_or_concat' outer with rfl | ⟨front, last, rfl⟩
    · obtain ⟨-, rfl⟩ := List.append_singleton_inj.mp h
      exact .inl hfails
    · rw [← List.cons_append, ← List.append_assoc] at h
      obtain ⟨rfl, rfl⟩ := List.append_singleton_inj.mp h
      rw [List.forall_mem_append, List.forall_mem_singleton] at houter
      exact .inr ⟨houter.2, inner, failing, front, rfl, hfails, houter.1⟩
  · rintro (hfails | ⟨haccepted, inner, failing, outer, rfl, hfails, houter⟩)
    · exact ⟨accesses, access, [], rfl, hfails, by simp⟩
    · refine ⟨inner, failing, outer ++ [access], by simp, hfails, ?_⟩
      rw [List.forall_mem_append, List.forall_mem_singleton]
      exact ⟨houter, haccepted⟩

end Access

/-- All accesses can be compiled exactly if there is a path of their segments. -/
theorem forall_accepted_iff {accesses : List Access} :
    (∀ access ∈ accesses, access.Accepted) ↔ ∃ path, List.Forall₂ Access.Gives accesses path := by
  induction accesses with
  | nil => exact ⟨fun _ => ⟨[], .nil⟩, by simp⟩
  | cons access rest ih =>
      rw [List.forall_mem_cons, ih, Access.accepted_iff]
      constructor
      · rintro ⟨⟨v, hv⟩, path, hpath⟩
        exact ⟨v :: path, .cons (Access.segment_eq_ok_iff.mp hv) hpath⟩
      · rintro ⟨path, hpath⟩
        obtain ⟨v, rest, hv, hrest, rfl⟩ := List.forall₂_cons_left_iff.mp hpath
        exact ⟨⟨v, Access.segment_eq_ok_iff.mpr hv⟩, rest, hrest⟩

/-- What is related to a list with one more item is a list with one more item. -/
theorem forall₂_concat_left {α β : Type} {R : α → β → Prop} {xs : List α} {x : α} {ys : List β}
    (h : List.Forall₂ R (xs ++ [x]) ys) :
    ∃ front y, List.Forall₂ R xs front ∧ R x y ∧ ys = front ++ [y] := by
  induction xs generalizing ys with
  | nil =>
      obtain ⟨y, rest, hy, hrest, rfl⟩ := List.forall₂_cons_left_iff.mp h
      exact ⟨[], y, .nil, hy, by rw [List.forall₂_nil_left_iff.mp hrest]; rfl⟩
  | cons first xs ih =>
      obtain ⟨second, rest, hsecond, hrest, rfl⟩ := List.forall₂_cons_left_iff.mp h
      obtain ⟨front, y, hfront, hy, rfl⟩ := ih hrest
      exact ⟨second :: front, y, .cons hsecond hfront, hy, rfl⟩

namespace Node

/-! ### Bases with accesses -/

/-- The base with the accesses applied to it, the first one first. -/
def accessed (base : Node) (accesses : List Access) : Node :=
  accesses.foldl Access.onto base

/-- What the innermost member access is applied to. -/
def root : Node → Node
  | .member _ base _ _ => base.root
  | node => node

/-- The member accesses that are applied to the root, in source order. -/
def spine : Node → List Access
  | .member span base access computed => base.spine ++ [⟨span, access, computed⟩]
  | _ => []

theorem accessed_concat (base : Node) (accesses : List Access) (access : Access) :
    base.accessed (accesses ++ [access]) = access.onto (base.accessed accesses) := by
  rw [accessed, List.foldl_append]
  rfl

theorem root_of_not_isMember {node : Node} (h : node.isMember = false) : node.root = node := by
  cases node with
  | member span base access computed => cases h
  | _ => rfl

theorem spine_of_not_isMember {node : Node} (h : node.isMember = false) : node.spine = [] := by
  cases node with
  | member span base access computed => cases h
  | _ => rfl

/-- What holds of every expression that is no member access, and passes from the base of a member
access to the access, holds of every expression. -/
theorem induction_base {P : Node → Prop} (root : ∀ node, node.isMember = false → P node)
    (member : ∀ span base access computed, P base → P (.member span base access computed))
    (node : Node) : P node := by
  cases node with
  | member span base access computed =>
      exact member span base access computed (induction_base root member base)
  | _ => exact root _ rfl

theorem isMember_root (node : Node) : node.root.isMember = false := by
  induction node using induction_base with
  | root node h => rwa [root_of_not_isMember h]
  | member span base access computed ih => exact ih

/-- Every expression is its root with the accesses of its spine. -/
theorem accessed_root_spine (node : Node) : node.root.accessed node.spine = node := by
  induction node using induction_base with
  | root node h =>
      rw [root_of_not_isMember h, spine_of_not_isMember h]
      rfl
  | member span base access computed ih =>
      rw [root, spine, accessed_concat, ih]
      rfl

theorem root_accessed {base : Node} (h : base.isMember = false) (accesses : List Access) :
    (base.accessed accesses).root = base := by
  induction accesses using List.reverseRecOn with
  | nil => exact root_of_not_isMember h
  | append_singleton accesses access ih =>
      rw [accessed_concat]
      exact ih

theorem spine_accessed {base : Node} (h : base.isMember = false) (accesses : List Access) :
    (base.accessed accesses).spine = accesses := by
  induction accesses using List.reverseRecOn with
  | nil => exact spine_of_not_isMember h
  | append_singleton accesses access ih => rw [accessed_concat, Access.onto, spine, ih]

/-! ### Compiling the accesses -/

/-- One access adds its segment to the path of what it is applied to. -/
theorem chain_member (span : Option Span) (base access : Node) (computed : Bool) :
    chain (.member span base access computed) = (do
      let step ← Access.segment ⟨span, access, computed⟩
      let (root, path) ← chain base
      return (root, path ++ [step])) := by
  rw [chain, accesses_eq]
  rfl

theorem chain_eq_ok_iff {node : Node} {root : Json} {path : List Json} :
    chain node = .ok (root, path) ↔
      term node.root = .ok root ∧ List.Forall₂ Access.Gives node.spine path := by
  induction node using induction_base generalizing path with
  | root node h =>
      rw [chain_of_not_isMember h, root_of_not_isMember h, spine_of_not_isMember h,
        List.forall₂_nil_left_iff, bind_eq_ok_iff]
      simp only [pure_eq_ok, Except.ok.injEq, Prod.mk.injEq]
      constructor
      · rintro ⟨v, hv, rfl, rfl⟩
        exact ⟨hv, rfl⟩
      · rintro ⟨hroot, rfl⟩
        exact ⟨root, hroot, rfl, rfl⟩
  | member span base access computed ih =>
      rw [chain_member, Node.root, spine]
      simp only [bind_eq_ok_iff, Prod.exists]
      constructor
      · rintro ⟨step, hstep, base', front, hfront, h⟩
        cases h
        obtain ⟨hroot, hsegments⟩ := ih.mp hfront
        exact ⟨hroot, List.rel_append hsegments
          (.cons (Access.segment_eq_ok_iff.mp hstep) .nil)⟩
      · rintro ⟨hroot, hsegments⟩
        obtain ⟨front, step, hfront, hstep, rfl⟩ := forall₂_concat_left hsegments
        exact ⟨step, Access.segment_eq_ok_iff.mpr hstep, root, front, ih.mpr ⟨hroot, hfront⟩, rfl⟩

/-- The path of an expression fails with its last access that fails, and only then with its root. -/
theorem chain_eq_error_iff {node : Node} {fault : Fault} :
    chain node = .error fault ↔
      Access.LastFails node.spine fault ∨
        (∀ access ∈ node.spine, access.Accepted) ∧ term node.root = .error fault := by
  induction node using induction_base with
  | root node h =>
      rw [chain_of_not_isMember h, root_of_not_isMember h, spine_of_not_isMember h]
      simp only [Access.not_lastFails_nil, List.not_mem_nil, false_or]
      cases term node <;> simp
  | member span base access computed ih =>
      rw [chain_member, Node.root, spine, Access.lastFails_concat_iff, List.forall_mem_append,
        List.forall_mem_singleton]
      cases hsegment : Access.segment ⟨span, access, computed⟩ with
      | error last =>
          have hrefused : ¬ Access.Accepted ⟨span, access, computed⟩ := by
            rw [Access.accepted_iff, hsegment]
            rintro ⟨v, ⟨⟩⟩
          rw [← Access.segment_eq_error_iff, hsegment]
          simp only [hrefused, error_bind, Except.error.injEq, false_and, and_false, or_false]
      | ok step =>
          have haccepted : Access.Accepted ⟨span, access, computed⟩ :=
            Access.accepted_iff.mpr ⟨step, hsegment⟩
          rw [← Access.segment_eq_error_iff, hsegment]
          simp only [haccepted, ok_bind, reduceCtorEq, false_or, true_and, and_true, ← ih]
          cases chain base with
          | error fault => rfl
          | ok result => simp

theorem term_of_isMember {node : Node} (h : node.isMember = true) :
    term node = (do
      let (root, path) ← chain node
      return tagged node.span [("attr", root), ("path", .arr path)]) := by
  cases node with
  | member span base access computed =>
      rw [term, chain]
      rfl
  | _ => cases h

/-- The term of a member access is that of its root with the segments of its spine. -/
theorem term_eq_ok_iff {node : Node} (hnode : node.isMember = true) {v : Json} :
    term node = .ok v ↔ ∃ root path, term node.root = .ok root ∧
      List.Forall₂ Access.Gives node.spine path ∧
      v = tagged node.span [("attr", root), ("path", .arr path)] := by
  rw [term_of_isMember hnode]
  constructor
  · intro h
    obtain ⟨⟨root, path⟩, hchain, h⟩ := bind_eq_ok_iff.mp h
    obtain ⟨hroot, hpath⟩ := chain_eq_ok_iff.mp hchain
    cases h
    exact ⟨root, path, hroot, hpath, rfl⟩
  · rintro ⟨root, path, hroot, hpath, rfl⟩
    rw [chain_eq_ok_iff.mpr ⟨hroot, hpath⟩]
    rfl

/-- **Attribute paths are in source order.** A member access is a base that is none, followed by
accesses. It has a term exactly if all accesses can be compiled and the base has one, and this is
the base's term with the segments of the accesses, in source order. Otherwise it fails with the last
access that fails, or with the base if none does. -/
theorem attribute_path_in_order (node : Node) (hnode : node.isMember = true) :
    (node = node.root.accessed node.spine ∧ node.root.isMember = false ∧ node.spine ≠ [] ∧
      ∀ base accesses, base.isMember = false → node = base.accessed accesses →
        base = node.root ∧ accesses = node.spine) ∧
    ((∃ v, term node = .ok v) ↔
      (∀ access ∈ node.spine, access.Accepted) ∧ ∃ v, term node.root = .ok v) ∧
    (∀ v, term node = .ok v ↔ ∃ root path, term node.root = .ok root ∧
      List.Forall₂ Access.Gives node.spine path ∧
      v = tagged node.span [("attr", root), ("path", .arr path)]) ∧
    ∀ fault, term node = .error fault ↔
      Access.LastFails node.spine fault ∨
        (∀ access ∈ node.spine, access.Accepted) ∧ term node.root = .error fault := by
  have hok := @term_eq_ok_iff node hnode
  refine ⟨⟨(accessed_root_spine node).symm, isMember_root node, ?_, ?_⟩, ?_, fun v => hok, ?_⟩
  · cases node with
    | member span base access computed => simp [spine]
    | _ => cases hnode
  · rintro base accesses hbase rfl
    exact ⟨(root_accessed hbase accesses).symm, (spine_accessed hbase accesses).symm⟩
  · rw [forall_accepted_iff]
    constructor
    · rintro ⟨v, hv⟩
      obtain ⟨root, path, hroot, hpath, -⟩ := hok.mp hv
      exact ⟨⟨path, hpath⟩, root, hroot⟩
    · rintro ⟨⟨path, hpath⟩, root, hroot⟩
      exact ⟨_, hok.mpr ⟨root, path, hroot, hpath, rfl⟩⟩
  · intro fault
    rw [term_of_isMember hnode, ← chain_eq_error_iff]
    cases chain node with
    | error last => simp
    | ok result => simp

/-- The expression `b.c`. -/
def partC : Node := .member none (.identifier none "b") (.identifier none "c") false

/-- The expression `a.x[b.c].y` on two lines. -/
def twoLines : Node :=
  .member (some ⟨1, 0, 2, 2⟩) (.member none (.member none (.identifier none "a")
    (.identifier none "x") false) partC true) (.identifier (some ⟨2, 1, 2, 2⟩) "y") false

/-- Two accesses with points before numbers. -/
def misnamed : Node :=
  .member (some ⟨1, 0, 2, 2⟩) (.member (some ⟨1, 0, 1, 3⟩) (.identifier none "a")
    (.literal none none (.int 1) .null) false) (.literal none none (.int 2) .null) false

theorem attribute_path_in_order_twoLines :
    twoLines.isMember = true ∧ misnamed.isMember = true ∧
      (∃ v, term partC = .ok v ∧ term twoLines = .ok (tagged (some ⟨1, 0, 2, 2⟩)
        [("attr", .str "a"), ("path", .arr [.obj [("string", .str "x")], v,
          tagged (some ⟨2, 1, 2, 2⟩) [("string", .str "y")]])])) ∧
      term misnamed = .error ⟨.memberAccess, some ⟨1, 0, 2, 2⟩⟩ := by
  refine ⟨rfl, rfl, ?_, ?_⟩
  · have hname : ∀ name, term (.identifier none name) = .ok (.str name) := by
      intro name
      rw [term]
    have hinner := ((attribute_path_in_order partC rfl).2.2.1 _).mpr
      ⟨.str "b", _, hname "b", .cons (.named none none "c") .nil, rfl⟩
    exact ⟨_, hinner, ((attribute_path_in_order twoLines rfl).2.2.1 _).mpr
      ⟨.str "a", _, hname "a", .cons (.named none none "x") (.cons (.computed hinner)
        (.cons (.named (some ⟨1, 0, 2, 2⟩) (some ⟨2, 1, 2, 2⟩) "y") .nil)), rfl⟩⟩
  · refine ((attribute_path_in_order misnamed rfl).2.2.2 _).mpr (.inl ?_)
    exact ⟨[⟨some ⟨1, 0, 1, 3⟩, .literal none none (.int 1) .null, false⟩],
      ⟨some ⟨1, 0, 2, 2⟩, .literal none none (.int 2) .null, false⟩, [], rfl,
      .named (by rintro place name ⟨⟩), by simp⟩

end Node

end PfaScript
