import Mathlib
import PfaScript.Proofs.Likeness
import PfaScript.Proofs.Relabel
import PfaScript.Proofs.StatementList

/-!
# Trees that are alike

Two trees are alike (`Node.Like`) if they are made of the same constructs at places that are alike.
Written forms and payloads do not count; the second tree may lack empty statements in its blocks,
and a body counts as the list of its statements, with or without braces.

None of the questions that the compiler asks about the shape of a node tells trees apart that are
alike. A tree and the relabelled tree are alike (`Node.like_relabel`), and so are a tree and itself.
-/

namespace PfaScript

namespace Node

/-- The statements of a body: those of a block, or the body alone. -/
def bodyStatements : Node → List Node
  | .block _ body => body
  | node => [node]

theorem bodyStatements_of_not_isBlock {node : Node} (h : node.isBlock = false) :
    bodyStatements node = [node] := by
  cases node with
  | block span body => cases h
  | _ => rfl

section relations

variable (R : Node → Node → Prop)

/-- The statements of two lists are related one by one, except that the second list may lack empty
ones. -/
inductive Kept : List Node → List Node → Prop
  | nil : Kept [] []
  | cons {node other : Node} {rest others : List Node} (h : R node other)
      (hs : Kept rest others) : Kept (node :: rest) (other :: others)
  | skip {node : Node} {rest others : List Node} (h : node.isEmptyStatement)
      (hs : Kept rest others) : Kept (node :: rest) others

/-- Two alternatives continue a chain of conditional statements, or their statements are related. -/
inductive AlternateRel : Option Node → Option Node → Prop
  | none : AlternateRel none none
  | chain {node other : Node} (hnode : node.isConditional) (h : R node other) :
      AlternateRel (some node) (some other)
  | body {node other : Node} (hnode : node.isConditional = false)
      (hother : other.isConditional = false)
      (h : Kept R (bodyStatements node) (bodyStatements other)) :
      AlternateRel (some node) (some other)

/-- Two parameters are related by their targets and their default values. -/
inductive ParamRel : Param Node → Param Node → Prop
  | mk {target target' : Node} {initial initial' : Option Node} (htarget : R target target')
      (hinitial : Option.Rel R initial initial') : ParamRel ⟨target, initial⟩ ⟨target', initial'⟩

/-- Two declarators are related by their places, their targets and their initial values. -/
inductive DeclaratorRel (L : Likeness) : Declarator Node → Declarator Node → Prop
  | mk {span span' : Option Span} {target target' : Node} {init init' : Option Node}
      (hplace : L.Place span span') (htarget : R target target') (hinit : Option.Rel R init init') :
      DeclaratorRel L ⟨span, target, init⟩ ⟨span', target', init'⟩

end relations

/-- Two trees are alike. -/
inductive Like (L : Likeness) : Node → Node → Prop
  | literal {span span' raw raw' value pattern} (hplace : L.Place span span') :
    Like L (.literal span raw value pattern) (.literal span' raw' value pattern)
  | identifier {span span' name} (hplace : L.Place span span') :
    Like L (.identifier span name) (.identifier span' name)
  | array {span span' elements elements'} (hplace : L.Place span span')
    (helements : List.Forall₂ (Option.Rel (Like L)) elements elements') :
    Like L (.array span elements) (.array span' elements')
  | property {span span' key key' value value' kind computed} (hplace : L.Place span span')
    (hkey : Like L key key') (hvalue : Like L value value') :
    Like L (.property span key value kind computed) (.property span' key' value' kind computed)
  | object {span span' properties properties'} (hplace : L.Place span span')
    (hproperties : List.Forall₂ (Like L) properties properties') :
    Like L (.object span properties) (.object span' properties')
  | member {span span' base base' access access' computed} (hplace : L.Place span span')
    (hbase : Like L base base') (haccess : Like L access access') :
    Like L (.member span base access computed) (.member span' base' access' computed)
  | unary {span span' operator argument argument' leading} (hplace : L.Place span span')
    (hargument : Like L argument argument') :
    Like L (.unary span operator argument leading) (.unary span' operator argument' leading)
  | binary {span span' operator left left' right right'} (hplace : L.Place span span')
    (hleft : Like L left left') (hright : Like L right right') :
    Like L (.binary span operator left right) (.binary span' operator left' right')
  | conditional {span span' test test' consequent consequent' alternate alternate'}
    (hplace : L.Place span span') (htest : Like L test test')
    (hconsequent : Like L consequent consequent') (halternate : Like L alternate alternate') :
    Like L (.conditional span test consequent alternate)
      (.conditional span' test' consequent' alternate')
  | call {span span' callee callee' arguments arguments'} (hplace : L.Place span span')
    (hcallee : Like L callee callee') (harguments : List.Forall₂ (Like L) arguments arguments') :
    Like L (.call span callee arguments) (.call span' callee' arguments')
  | construct {span span' callee callee' arguments arguments'} (hplace : L.Place span span')
    (hcallee : Like L callee callee') (harguments : List.Forall₂ (Like L) arguments arguments') :
    Like L (.construct span callee arguments) (.construct span' callee' arguments')
  | function {span span' params params' body body' id id' rest rest' flags}
    (hplace : L.Place span span') (hparams : List.Forall₂ (ParamRel (Like L)) params params')
    (hbody : Like L body body') (hid : Option.Rel (Like L) id id')
    (hrest : Option.Rel (Like L) rest rest') :
    Like L (.function span params body id rest flags)
      (.function span' params' body' id' rest' flags)
  | declarator {declarator declarator'}
    (hdeclarator : DeclaratorRel (Like L) L declarator declarator') :
    Like L (.declarator declarator) (.declarator declarator')
  | declaration {span span' declarators declarators' kind} (hplace : L.Place span span')
    (hdeclarators : List.Forall₂ (DeclaratorRel (Like L) L) declarators declarators') :
    Like L (.declaration span declarators kind) (.declaration span' declarators' kind)
  | assignment {span span' operator left left' right right'} (hplace : L.Place span span')
    (hleft : Like L left left') (hright : Like L right right') :
    Like L (.assignment span operator left right) (.assignment span' operator left' right')
  | update {span span' operator argument argument' leading} (hplace : L.Place span span')
    (hargument : Like L argument argument') :
    Like L (.update span operator argument leading) (.update span' operator argument' leading)
  | sequence {span span' items items'} (hplace : L.Place span span')
    (hitems : List.Forall₂ (Like L) items items') :
    Like L (.sequence span items) (.sequence span' items')
  | block {span span' body body'} (hplace : L.Place span span') (hbody : Kept (Like L) body body') :
    Like L (.block span body) (.block span' body')
  | expressionStatement {span span' inner inner'} (hplace : L.Place span span')
    (hinner : Like L inner inner') :
    Like L (.expressionStatement span inner) (.expressionStatement span' inner')
  | conditionalStatement {span span' test test' consequent consequent' alternate alternate'}
    (hplace : L.Place span span') (htest : Like L test test')
    (hconsequent : Kept (Like L) (bodyStatements consequent) (bodyStatements consequent'))
    (halternate : AlternateRel (Like L) alternate alternate') :
    Like L (.conditionalStatement span test consequent alternate)
      (.conditionalStatement span' test' consequent' alternate')
  | whileLoop {span span' test test' body body'} (hplace : L.Place span span')
    (htest : Like L test test')
    (hbody : Kept (Like L) (bodyStatements body) (bodyStatements body')) :
    Like L (.whileLoop span test body) (.whileLoop span' test' body')
  | doWhileLoop {span span' test test' body body'} (hplace : L.Place span span')
    (htest : Like L test test')
    (hbody : Kept (Like L) (bodyStatements body) (bodyStatements body')) :
    Like L (.doWhileLoop span body test) (.doWhileLoop span' body' test')
  | forLoop {span span' init init' test test' step step' body body'} (hplace : L.Place span span')
    (hinit : Option.Rel (Like L) init init') (htest : Option.Rel (Like L) test test')
    (hstep : Option.Rel (Like L) step step')
    (hbody : Kept (Like L) (bodyStatements body) (bodyStatements body')) :
    Like L (.forLoop span init test step body) (.forLoop span' init' test' step' body')
  | forInLoop {span span' left left' right right' body body'} (hplace : L.Place span span')
    (hleft : Like L left left') (hright : Like L right right')
    (hbody : Kept (Like L) (bodyStatements body) (bodyStatements body')) :
    Like L (.forInLoop span left right body) (.forInLoop span' left' right' body')
  | throwStatement {span span' argument argument'} (hplace : L.Place span span')
    (hargument : Like L argument argument') :
    Like L (.throwStatement span argument) (.throwStatement span' argument')
  | empty {span span'} (hplace : L.Place span span') : Like L (.empty span) (.empty span')
  | program {span span' body body'} (hplace : L.Place span span')
    (hbody : List.Forall₂ (Like L) body body') : Like L (.program span body) (.program span' body')
  | unsupported {span span' tag payload payload'} (hplace : L.Place span span') :
    Like L (.unsupported span tag payload) (.unsupported span' tag payload')

/-! ### Shapes of nodes -/

namespace Like

variable {L : Likeness} {node other : Node}

/-- Nodes that are alike have places that are alike. -/
theorem place (h : Like L node other) : L.Place node.span other.span := by
  cases h with
  | declarator h =>
      cases h
      assumption
  | _ => assumption

/-- Nodes that are alike are of the same construct. -/
theorem tag_eq (h : Like L node other) : other.tag = node.tag := by
  cases h <;> rfl

theorem isExpression_eq (h : Like L node other) : other.isExpression = node.isExpression := by
  cases h <;> rfl

theorem isStatement_eq (h : Like L node other) : other.isStatement = node.isStatement := by
  cases h <;> rfl

theorem isMember_eq (h : Like L node other) : other.isMember = node.isMember := by
  cases h <;> rfl

theorem isConditional_eq (h : Like L node other) : other.isConditional = node.isConditional := by
  cases h <;> rfl

/-- Both are the same text, or neither is one. -/
theorem text?_eq (h : Like L node other) : other.text? = node.text? := by
  cases h with
  | @literal _ _ _ _ value pattern => cases value <;> cases pattern <;> rfl
  | _ => rfl

/-- Both are the same name, or neither is one. -/
theorem name?_eq (h : Like L node other) : other.name? = node.name? := by
  cases h with
  | @literal _ _ _ _ value => cases value <;> rfl
  | _ => rfl

theorem isTypeLiteral_eq (h : Like L node other) : other.isTypeLiteral = node.isTypeLiteral := by
  have htext := h.text?_eq
  cases h with
  | literal => exact congrArg Option.isSome htext
  | _ => rfl

/-- Both are steps, or neither is one. -/
theorem isStep_eq (h : Like L node other) : other.isStep = node.isStep := by
  cases h with
  | assignment _ hleft => cases hleft <;> rfl
  | update _ hargument => cases hargument <;> rfl
  | _ => rfl

theorem isDefinition_eq (h : Like L node other) : other.isDefinition = node.isDefinition := by
  cases h with
  | @binary _ _ operator _ _ _ _ _ hleft =>
      by_cases hop : operator = ">>"
      · subst hop
        cases hleft <;> rfl
      · simp [isDefinition, hop]
  | _ => rfl

/-- Both refer to the same function, or neither refers to one. -/
theorem functionReference?_eq (h : Like L node other) :
    other.functionReference? = node.functionReference? := by
  cases h with
  | call _ hcallee harguments =>
      cases hcallee with
      | @identifier _ _ name =>
          by_cases hname : name = "fcn"
          · subst hname
            rcases harguments with _ | ⟨hargument, _ | ⟨_, _⟩⟩
            · rfl
            · exact hargument.name?_eq
            · rfl
          · simp [functionReference?, hname]
      | _ => rfl
  | _ => rfl

/-- Both declare the same loop variable, or neither does. -/
theorem loopVariable?_eq (h : Like L node other) : other.loopVariable? = node.loopVariable? := by
  cases h with
  | @declaration _ _ _ _ kind _ hdeclarators =>
      by_cases hkind : kind = "var"
      · subst hkind
        rcases hdeclarators with _ | ⟨⟨_, htarget, hinit⟩, _ | ⟨_, _⟩⟩
        · rfl
        · cases htarget <;> cases hinit <;> rfl
        · simp [loopVariable?]
      · simp [loopVariable?, hkind]
  | _ => rfl

/-- The statements of bodies that are alike are kept. -/
theorem bodyStatements (h : Like L node other) :
    Kept (Like L) node.bodyStatements other.bodyStatements := by
  cases h with
  | block _ hbody => exact hbody
  | _ => exact .cons (by constructor <;> assumption) .nil

end Like

/-! ### Lists of statements and alternatives -/

section lists

variable {R : Node → Node → Prop} {L : Likeness}

/-- All nodes of a list may be kept. -/
theorem Kept.of_forall₂ {nodes others : List Node} (h : List.Forall₂ R nodes others) :
    Kept R nodes others := by
  induction h with
  | nil => exact .nil
  | cons hfirst _ ih => exact .cons hfirst ih

/-- Alternatives may be alike as they are. -/
theorem AlternateRel.of_rel {alternate other : Option Node}
    (h : Option.Rel (Like L) alternate other) : AlternateRel (Like L) alternate other := by
  cases h with
  | none => exact .none
  | @some node other h =>
      cases hnode : node.isConditional with
      | true => exact .chain hnode h
      | false => exact .body hnode (h.isConditional_eq.trans hnode) h.bodyStatements

end lists

/-! ### Relabelled trees -/

section relabel

variable {L : Likeness} {r : Relabelling}

mutual

/-- A tree and the tree with other labels are alike, if places and their labels are. -/
theorem like_relabel (hr : ∀ span, L.Place span (r.span span)) (node : Node) :
    Like L node (relabel r node) := by
  cases node with
  | literal span raw value pattern => exact .literal (hr span)
  | identifier span name => exact .identifier (hr span)
  | array span elements => exact .array (hr span) (like_relabelHoles hr elements)
  | property span key value kind computed =>
      exact .property (hr span) (like_relabel hr key) (like_relabel hr value)
  | object span properties => exact .object (hr span) (like_relabelAll hr properties)
  | member span base access computed =>
      exact .member (hr span) (like_relabel hr base) (like_relabel hr access)
  | unary span operator argument leading => exact .unary (hr span) (like_relabel hr argument)
  | binary span operator left right =>
      exact .binary (hr span) (like_relabel hr left) (like_relabel hr right)
  | conditional span test consequent alternate =>
      exact .conditional (hr span) (like_relabel hr test) (like_relabel hr consequent)
        (like_relabel hr alternate)
  | call span callee arguments =>
      exact .call (hr span) (like_relabel hr callee) (like_relabelAll hr arguments)
  | construct span callee arguments =>
      exact .construct (hr span) (like_relabel hr callee) (like_relabelAll hr arguments)
  | function span params body id rest flags =>
      exact .function (hr span) (like_relabelParams hr params) (like_relabel hr body)
        (like_relabelOption hr id) (like_relabelOption hr rest)
  | declarator declarator =>
      obtain ⟨span, target, init⟩ := declarator
      exact .declarator (.mk (hr span) (like_relabel hr target) (like_relabelOption hr init))
  | declaration span declarators kind =>
      exact .declaration (hr span) (like_relabelDeclarators hr declarators)
  | assignment span operator left right =>
      exact .assignment (hr span) (like_relabel hr left) (like_relabel hr right)
  | update span operator argument leading => exact .update (hr span) (like_relabel hr argument)
  | sequence span items => exact .sequence (hr span) (like_relabelAll hr items)
  | block span body => exact .block (hr span) (.of_forall₂ (like_relabelAll hr body))
  | expressionStatement span inner => exact .expressionStatement (hr span) (like_relabel hr inner)
  | conditionalStatement span test consequent alternate =>
      exact .conditionalStatement (hr span) (like_relabel hr test)
        (like_relabel hr consequent).bodyStatements (.of_rel (like_relabelOption hr alternate))
  | whileLoop span test body =>
      exact .whileLoop (hr span) (like_relabel hr test) (like_relabel hr body).bodyStatements
  | doWhileLoop span body test =>
      exact .doWhileLoop (hr span) (like_relabel hr test) (like_relabel hr body).bodyStatements
  | forLoop span init test step body =>
      exact .forLoop (hr span) (like_relabelOption hr init) (like_relabelOption hr test)
        (like_relabelOption hr step) (like_relabel hr body).bodyStatements
  | forInLoop span left right body =>
      exact .forInLoop (hr span) (like_relabel hr left) (like_relabel hr right)
        (like_relabel hr body).bodyStatements
  | throwStatement span argument => exact .throwStatement (hr span) (like_relabel hr argument)
  | empty span => exact .empty (hr span)
  | program span body => exact .program (hr span) (like_relabelAll hr body)
  | unsupported span tag payload => exact .unsupported (hr span)

/-- Lists are like their relabelled forms node by node. -/
theorem like_relabelAll (hr : ∀ span, L.Place span (r.span span)) (nodes : List Node) :
    List.Forall₂ (Like L) nodes (relabelAll r nodes) := by
  match nodes with
  | [] => exact .nil
  | node :: rest => exact .cons (like_relabel hr node) (like_relabelAll hr rest)

theorem like_relabelOption (hr : ∀ span, L.Place span (r.span span)) (node : Option Node) :
    Option.Rel (Like L) node (relabelOption r node) := by
  match node with
  | none => exact .none
  | some node => exact .some (like_relabel hr node)

theorem like_relabelHoles (hr : ∀ span, L.Place span (r.span span))
    (elements : List (Option Node)) :
    List.Forall₂ (Option.Rel (Like L)) elements (relabelHoles r elements) := by
  match elements with
  | [] => exact .nil
  | element :: rest => exact .cons (like_relabelOption hr element) (like_relabelHoles hr rest)

theorem like_relabelParams (hr : ∀ span, L.Place span (r.span span))
    (params : List (Param Node)) :
    List.Forall₂ (ParamRel (Like L)) params (relabelParams r params) := by
  match params with
  | [] => exact .nil
  | ⟨target, initial⟩ :: rest =>
      exact .cons (.mk (like_relabel hr target) (like_relabelOption hr initial))
        (like_relabelParams hr rest)

theorem like_relabelDeclarators (hr : ∀ span, L.Place span (r.span span))
    (declarators : List (Declarator Node)) :
    List.Forall₂ (DeclaratorRel (Like L) L) declarators (relabelDeclarators r declarators) := by
  match declarators with
  | [] => exact .nil
  | ⟨span, target, init⟩ :: rest =>
      exact .cons (.mk (hr span) (like_relabel hr target) (like_relabelOption hr init))
        (like_relabelDeclarators hr rest)

end

end relabel

/-! ### A tree and itself -/

section refl

variable {L : Likeness}

/-- Every node is like itself. -/
@[simp] theorem Like.refl (node : Node) : Like L node node := by
  have h := like_relabel (r := .same) (fun span => Likeness.Place.refl (L := L) span) node
  rwa [relabel_same] at h

@[simp] theorem optionRel_refl {α : Type} {R : α → α → Prop} (hR : ∀ a, R a a) (a : Option α) :
    Option.Rel R a a := by
  cases a with
  | none => exact .none
  | some a => exact .some (hR a)

@[simp] theorem paramRel_iff {R : Node → Node → Prop} {param other : Param Node} :
    ParamRel R param other ↔
      R param.target other.target ∧ Option.Rel R param.initial other.initial := by
  constructor
  · rintro ⟨htarget, hinitial⟩
    exact ⟨htarget, hinitial⟩
  · rintro ⟨htarget, hinitial⟩
    exact .mk htarget hinitial

@[simp] theorem declaratorRel_iff {R : Node → Node → Prop} {d other : Declarator Node} :
    DeclaratorRel R L d other ↔
      L.Place d.span other.span ∧ R d.target other.target ∧ Option.Rel R d.init other.init := by
  constructor
  · rintro ⟨hplace, htarget, hinit⟩
    exact ⟨hplace, htarget, hinit⟩
  · rintro ⟨hplace, htarget, hinit⟩
    exact .mk hplace htarget hinit

@[simp] theorem Kept.refl (nodes : List Node) : Kept (Like L) nodes nodes :=
  .of_forall₂ (List.forall₂_same.mpr fun node _ => .refl node)

@[simp] theorem AlternateRel.refl (alternate : Option Node) :
    AlternateRel (Like L) alternate alternate :=
  .of_rel (optionRel_refl Like.refl alternate)

end refl

end Node

end PfaScript
