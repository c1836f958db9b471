import PfaScript.Proofs.Encoding

/-!
# Constructs are read alike from fields that are read alike

What the loader makes of a construct is related if what it reads of the construct's fields is: lists
of nodes item by item (`Load.nodes_related`), parameters with their default values
(`Load.attach_related`), and whole constructs field by field (`Load.build_related`). Which labels of
nodes are compared and which faults are related is left open.
-/

namespace PfaScript

open Node (relabel relabelAll relabelHoles relabelOption relabelParams relabelDeclarators
  relabelHoles_tail relabelOption_head? relabelOption_orElse relabelAll_reduceOption
  declarators_relabelAll)

open Spelling

/-- The keys of a construct's fields that go into its node as they are, written forms included. -/
def Construct.wordKeys (c : Construct) : List String :=
  if c = .literal then "raw" :: c.plainKeys else c.plainKeys

namespace Load

variable {F : Faults} {r : Relabelling}

/-! ### Lists of nodes -/

/-- The keys under which the patterns among parameters have their parts. -/
def partKeys : List String := ["left", "right", "argument"]

/-- Two values are read alike where a node of a list stands. A pattern among parameters is read
again from its parts, so the parts of unknown constructs are read alike too. -/
structure ItemRelated (F : Faults) (r : Relabelling) (v w : Json) : Prop where
  option : Related F (relabelOption r) (optionOf (some v)) (optionOf (some w))
  parts {tag : String} (h : Construct.ofTag? tag = none) (htag : v.field? "type" = some (.str tag))
    (owner : String) {key : String} (hkey : key ∈ partKeys) :
    Related F (relabel r) (childOf owner key (v.field? key)) (childOf owner key (w.field? key))

variable {values values' : List Json}

theorem nodes_related (h : List.Forall₂ (ItemRelated F r) values values') :
    Related F (relabelHoles r) (nodes values) (nodes values') := by
  induction h with
  | nil =>
      rw [nodes]
      exact .ok rfl
  | cons hv _ ih =>
      rw [nodes_cons, nodes_cons]
      refine hv.option.bind fun first first' hfirst => ih.bind fun rest rest' hrest => .ok ?_
      rw [relabelHoles, relabelHoles, hfirst, hrest]

theorem node_of_optionOf {v : Json} {n : Node} (h : optionOf (some v) = .ok (some n)) :
    node v = .ok n := by
  rw [optionOf] at h
  split at h
  · cases h
  · obtain ⟨n', hn', h⟩ := bind_eq_ok_iff.mp h
    cases h
    exact hn'

/-! ### Parameters -/

/-- What is read of parameters, with labels changed. -/
def relabelRead (r : Relabelling) (read : List (Param Node) × Option Node) :
    List (Param Node) × Option Node :=
  (relabelParams r read.1, relabelOption r read.2)

section relabelRead

variable {others others' : List (Param Node) × Option Node}

theorem relabelRead_cons {target target' : Node} {initial initial' : Option Node}
    (htarget : relabel r target = relabel r target')
    (hinitial : relabelOption r initial = relabelOption r initial')
    (h : relabelRead r others = relabelRead r others') :
    relabelRead r (⟨target, initial⟩ :: others.1, others.2) =
      relabelRead r (⟨target', initial'⟩ :: others'.1, others'.2) := by
  simp only [relabelRead, Prod.mk.injEq] at h
  simp only [relabelRead, relabelParams, htarget, hinitial, h]

theorem relabelRead_rest {trailing trailing' : Node}
    (htrailing : relabel r trailing = relabel r trailing')
    (h : relabelRead r others = relabelRead r others') :
    relabelRead r (others.1, others.2 <|> some trailing) =
      relabelRead r (others'.1, others'.2 <|> some trailing') := by
  simp only [relabelRead, Prod.mk.injEq] at h
  simp only [relabelRead, relabelOption_orElse, relabelOption, htrailing, h]

end relabelRead

/-- Parameters are given alike default values. -/
theorem attach_related (h : List.Forall₂ (ItemRelated F r) values values')
    {defaults defaults' read read' : List (Option Node)}
    (hdefaults : relabelHoles r defaults = relabelHoles r defaults')
    (hread : nodes values = .ok read) (hread' : nodes values' = .ok read') :
    Related F (relabelRead r) (attach defaults values read) (attach defaults' values' read') := by
  induction h generalizing defaults defaults' read read' with
  | nil =>
      rw [attach_nil_left, attach_nil_left]
      exact .ok rfl
  | @cons v w values values' hv hvalues ih =>
      rw [nodes_cons] at hread hread'
      obtain ⟨first, hfirst, hread⟩ := bind_eq_ok_iff.mp hread
      obtain ⟨rest, hrest, hread⟩ := bind_eq_ok_iff.mp hread
      obtain ⟨first', hfirst', hread'⟩ := bind_eq_ok_iff.mp hread'
      obtain ⟨rest', hrest', hread'⟩ := bind_eq_ok_iff.mp hread'
      cases hread
      cases hread'
      have hsame := hv.option
      rw [hfirst, hfirst'] at hsame
      cases hsame with | ok hsame => ?_
      cases first with
      | none =>
          cases first' with
          | none =>
              rw [attach_hole, attach_hole]
              exact ih hdefaults hrest hrest'
          | some n' => cases hsame
      | some n =>
      cases first' with
      | none => cases hsame
      | some n' =>
      have hnode := node_of_optionOf hfirst
      have hnode' := node_of_optionOf hfirst'
      simp only [relabelOption, Option.some.injEq] at hsame
      have htag : n.tag = n'.tag := by simpa using congrArg Node.tag hsame
      have htail : relabelHoles r defaults.tail = relabelHoles r defaults'.tail := by
        rw [relabelHoles_tail, relabelHoles_tail, hdefaults]
      have hothers := ih htail hrest hrest'
      -- A pattern is read from its parts, whatever was read of it as a node.
      by_cases hassignment : n.tag = "AssignmentPattern"
      · have hparts := hv.parts (by rw [hassignment]; rfl)
          (field_type_of_unknown hnode (by rw [hassignment]; rfl))
        obtain ⟨fields, rfl, hattach⟩ := attach_assignment hnode hassignment
        obtain ⟨fields', rfl, hattach'⟩ := attach_assignment hnode' (htag ▸ hassignment)
        rw [hattach, hattach']
        simp only [child_eq]
        refine (hparts _ (by decide)).bind fun target target' htarget => ?_
        refine (hparts _ (by decide)).bind fun initial initial' hinitial => ?_
        refine hothers.bind fun others others' hothers => .ok ?_
        exact relabelRead_cons htarget (congrArg some hinitial) hothers
      by_cases hremaining : n.tag = "RestElement"
      · have hparts := hv.parts (by rw [hremaining]; rfl)
          (field_type_of_unknown hnode (by rw [hremaining]; rfl))
        obtain ⟨fields, rfl, hattach⟩ := attach_rest hnode hremaining
        obtain ⟨fields', rfl, hattach'⟩ := attach_rest hnode' (htag ▸ hremaining)
        rw [hattach, hattach']
        simp only [child_eq]
        refine (hparts _ (by decide)).bind fun trailing trailing' htrailing => ?_
        refine hothers.bind fun others others' hothers => .ok ?_
        exact relabelRead_rest htrailing hothers
      rw [attach_plain hassignment hremaining,
        attach_plain (htag ▸ hassignment) (htag ▸ hremaining)]
      refine hothers.bind fun others others' hothers => .ok ?_
      refine relabelRead_cons hsame ?_ hothers
      rw [relabelOption_head?, relabelOption_head?, hdefaults]

/-! ### Constructs -/

/-- The fields of two nodes of a construct are read alike: those that hold nodes are related, and
the others are the same. -/
structure FieldsRelated (F : Faults) (r : Relabelling) (tag : String)
    (c : Construct) (f g : Entries String Json) : Prop where
  child : ∀ key ∉ "type" :: "loc" :: c.wordKeys,
    Related F (relabel r) (childOf tag key (f.get? key)) (childOf tag key (g.get? key))
  option : ∀ key ∉ "type" :: "loc" :: c.wordKeys,
    Related F (relabelOption r) (optionOf (f.get? key)) (optionOf (g.get? key))
  items : ∀ key ∉ "type" :: "loc" :: c.wordKeys,
    Related F (relabelHoles r) (itemsOf tag key (f.get? key)) (itemsOf tag key (g.get? key))
  params : ∀ key ∉ "type" :: "loc" :: c.wordKeys, ∀ {defaults defaults' : List (Option Node)},
    relabelHoles r defaults = relabelHoles r defaults' →
      Related F (relabelRead r) (parametersOf tag defaults (f.get? key))
        (parametersOf tag defaults' (g.get? key))
  plain : SameAt f g c.plainKeys
  raw : c = .literal → r.raw (f.get? "raw") = r.raw (g.get? "raw")

/-- The only fault of a declaration's nodes is a node that is no declarator. -/
theorem declarators_error {nodes : List Node} {e : LoadError} (h : declarators nodes = .error e) :
    ∃ tag, e = .malformed (.notADeclarator tag) := by
  induction nodes with
  | nil => cases h
  | cons node rest ih =>
      cases node with
      | declarator d =>
          rw [declarators] at h
          cases hrest : declarators rest with
          | error e' =>
              rw [hrest] at h
              cases h
              exact ih hrest
          | ok declared =>
              rw [hrest] at h
              cases h
      | _ =>
          simp only [declarators, Except.error.injEq] at h
          exact ⟨_, h.symm⟩

theorem declarators_related (hF : ∀ cause, F.Same (.malformed cause) (.malformed cause))
    {nodes nodes' : List Node} (h : relabelAll r nodes = relabelAll r nodes') :
    Related F (relabelDeclarators r) (declarators nodes) (declarators nodes') := by
  refine .of_map_eq ?_ fun e he => ?_
  · rw [← declarators_relabelAll, ← declarators_relabelAll, h]
  · obtain ⟨tag, rfl⟩ := declarators_error he
    exact hF _

/-- What a construct makes, with labels changed. -/
def relabelMake (r : Relabelling) (make : Option Span → Node) (span : Option Span) : Node :=
  relabel r (make span)

/-- Constructs are built alike from fields that are read alike. -/
theorem build_related (hF : ∀ cause, F.Same (.malformed cause) (.malformed cause)) {tag : String}
    {c : Construct} {f g : Entries String Json} (h : FieldsRelated F r tag c f g) :
    Related F (relabelMake r) (build tag f c) (build tag g c) := by
  have hplain := h.plain
  have htext key (hkey : key ∈ c.plainKeys) (fallback : String) :
      textField f key fallback = textField g key fallback := by
    rw [textField, textField, hplain key hkey]
  have hflag key (hkey : key ∈ c.plainKeys) (fallback : Bool) :
      flagField f key fallback = flagField g key fallback := by
    rw [flagField, flagField, hplain key hkey]
  have hlist {elements elements' : List (Option Node)}
      (h : relabelHoles r elements = relabelHoles r elements') :
      relabelAll r elements.reduceOption = relabelAll r elements'.reduceOption := by
    rw [relabelAll_reduceOption, relabelAll_reduceOption, h]
  cases c
  case literal =>
    have hpattern : patternField f = patternField g := by
      rw [patternField, patternField, hplain "regex" (by decide)]
    rw [build, build, hplain "value" (by decide), hpattern]
    refine .ok (funext fun span => ?_)
    simp only [relabelMake, relabel, h.raw rfl]
  case typedLiteral =>
    rw [build, build, hplain "value" (by decide)]
    exact .ok rfl
  case regexLiteral =>
    rw [build, build, htext "pattern" (by decide)]
    exact .ok rfl
  case identifier =>
    rw [build, build, nameField, nameField, hplain "name" (by decide)]
    split
    · exact .ok rfl
    · exact .error (hF _)
  case nullLiteral | empty => exact .ok rfl
  -- Constructs with children that must be there.
  case unary | update =>
    simp only [build, htext "operator" (by decide), hflag "prefix" (by decide)]
    refine (h.child _ (by decide)).bind fun argument argument' hargument =>
      .ok (funext fun span => ?_)
    simp only [relabelMake, relabel, hargument]
  case expressionStatement | throwStatement =>
    refine (h.child _ (by decide)).bind fun argument argument' hargument =>
      .ok (funext fun span => ?_)
    simp only [relabelMake, relabel, hargument]
  case property =>
    have hkind : kindField f = kindField g := by
      rw [kindField, kindField, hflag "method" (by decide), htext "kind" (by decide)]
    simp only [build, hkind, hflag "computed" (by decide)]
    refine (h.child _ (by decide)).bind fun key key' hkey => ?_
    refine (h.child _ (by decide)).bind fun value value' hvalue => .ok (funext fun span => ?_)
    simp only [relabelMake, relabel, hkey, hvalue]
  case member =>
    simp only [build, hflag "computed" (by decide)]
    refine (h.child _ (by decide)).bind fun base base' hbase => ?_
    refine (h.child _ (by decide)).bind fun access access' haccess => .ok (funext fun span => ?_)
    simp only [relabelMake, relabel, hbase, haccess]
  case binary | assignment =>
    simp only [build, htext "operator" (by decide)]
    refine (h.child _ (by decide)).bind fun left left' hleft => ?_
    refine (h.child _ (by decide)).bind fun right right' hright => .ok (funext fun span => ?_)
    simp only [relabelMake, relabel, hleft, hright]
  case whileLoop | doWhileLoop =>
    refine (h.child _ (by decide)).bind fun first first' hfirst => ?_
    refine (h.child _ (by decide)).bind fun second second' hsecond => .ok (funext fun span => ?_)
    simp only [relabelMake, relabel, hfirst, hsecond]
  case conditional | forInLoop =>
    refine (h.child _ (by decide)).bind fun first first' hfirst => ?_
    refine (h.child _ (by decide)).bind fun second second' hsecond => ?_
    refine (h.child _ (by decide)).bind fun third third' hthird => .ok (funext fun span => ?_)
    simp only [relabelMake, relabel, hfirst, hsecond, hthird]
  -- Constructs with children that may be missing.
  case declarator =>
    refine (h.child _ (by decide)).bind fun target target' htarget => ?_
    refine (h.option _ (by decide)).bind fun init init' hinit => .ok (funext fun span => ?_)
    simp only [relabelMake, relabel, htarget, hinit]
  case conditionalStatement =>
    refine (h.child _ (by decide)).bind fun test test' htest => ?_
    refine (h.child _ (by decide)).bind fun consequent consequent' hconsequent => ?_
    refine (h.option _ (by decide)).bind fun alternate alternate' halternate =>
      .ok (funext fun span => ?_)
    simp only [relabelMake, relabel, htest, hconsequent, halternate]
  case forLoop =>
    refine (h.option _ (by decide)).bind fun init init' hinit => ?_
    refine (h.option _ (by decide)).bind fun test test' htest => ?_
    refine (h.option _ (by decide)).bind fun step step' hstep => ?_
    refine (h.child _ (by decide)).bind fun body body' hbody => .ok (funext fun span => ?_)
    simp only [relabelMake, relabel, hinit, htest, hstep, hbody]
  -- Constructs with lists of children.
  case array =>
    refine (h.items _ (by decide)).bind fun elements elements' helements =>
      .ok (funext fun span => ?_)
    simp only [relabelMake, relabel, helements]
  case object | sequence | block | program =>
    refine (h.items _ (by decide)).bind fun elements elements' helements =>
      .ok (funext fun span => ?_)
    simp only [relabelMake, relabel, hlist helements]
  case call | construct =>
    refine (h.child _ (by decide)).bind fun callee callee' hcallee => ?_
    refine (h.items _ (by decide)).bind fun arguments arguments' harguments =>
      .ok (funext fun span => ?_)
    simp only [relabelMake, relabel, hcallee, hlist harguments]
  case declaration =>
    simp only [build, htext "kind" (by decide)]
    refine (h.items _ (by decide)).bind fun nodes nodes' hnodes => ?_
    refine (declarators_related hF (hlist hnodes)).bind fun ds ds' hds =>
      .ok (funext fun span => ?_)
    simp only [relabelMake, relabel, hds]
  case function =>
    have hflags : functionFlags f = functionFlags g := by
      rw [functionFlags, functionFlags, hflag "generator" (by decide),
        hflag "expression" (by decide), hflag "async" (by decide)]
    simp only [build, hflags]
    refine (h.option _ (by decide)).bind fun trailing trailing' htrailing => ?_
    refine (h.items _ (by decide)).bind fun defaults defaults' hdefaults => ?_
    refine (h.params _ (by decide) hdefaults).bind fun read read' hread => ?_
    refine (h.child _ (by decide)).bind fun body body' hbody => ?_
    refine (h.option _ (by decide)).bind fun id id' hid => .ok (funext fun span => ?_)
    simp only [relabelRead, Prod.mk.injEq] at hread
    simp only [relabelMake, relabel, relabelOption_orElse, hread, htrailing, hbody, hid]

/-- A node that was built depends on its place only as far as its labels do. -/
theorem relabel_make {tag : String} {c : Construct} {fields : Entries String Json}
    {make : Option Span → Node} (h : build tag fields c = .ok make) {span span' : Option Span}
    (hspan : r.span span = r.span span') : relabel r (make span) = relabel r (make span') := by
  revert h
  cases c <;>
    simp only [build, bind_eq_ok_iff, pure_eq_ok, Except.ok.injEq, Prod.exists,
      forall_exists_index, and_imp] <;>
    intros <;> subst_vars <;> simp only [relabel, hspan]

end Load

end PfaScript
