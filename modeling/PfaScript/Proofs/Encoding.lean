import PfaScript.Proofs.Location
import PfaScript.Proofs.Spelling

/-!
# Both ways to write a node are read alike

Two readings are related if both fail, with faults that count as the same, or both succeed with
results that are equal once `f` is applied; a fault may also stop the comparison (`Load.Related`).
They are the same up to `f` if they are related and faults are not compared (`Load.SameBy`), because
the order in which the parts of a node are read depends on the way it is written. The two ways of an
`Encoding` are read the same up to written forms (`Load.encoding_same`). For functions this goes
through the parameters as they are meant, whichever way they are written: `Load.signature` reads
these, and the loader agrees with it on both ways (`Load.readsParameters_iff`).
-/

namespace PfaScript

namespace Load

open Spelling

/-! ### Outcomes -/

/-- Which faults of two readings are related: faults that count as the same, and a fault of the
first reading that stops the comparison, whatever the second reading gives. -/
structure Faults where
  Same : LoadError → LoadError → Prop
  Stops : LoadError → Prop

/-- Faults are not compared. -/
def Faults.any : Faults where
  Same _ _ := True
  Stops _ := False

/-- Both readings fail with faults that count as the same, or both succeed with results that are
equal once `f` is applied, or the first reading stops. -/
inductive Related {α β : Type} (F : Faults) (f : α → β) :
    Except LoadError α → Except LoadError α → Prop
  | ok {a b : α} (h : f a = f b) : Related F f (.ok a) (.ok b)
  | error {e e' : LoadError} (h : F.Same e e') : Related F f (.error e) (.error e')
  | stop {e : LoadError} {y : Except LoadError α} (h : F.Stops e) : Related F f (.error e) y

/-- Both readings fail, or both succeed with results that are equal once `f` is applied. -/
abbrev SameBy {α β : Type} (f : α → β) (x y : Except LoadError α) : Prop := Related .any f x y

section outcomes

variable {α β γ δ : Type} {F : Faults} {f : α → β} {g : γ → δ} {x y z : Except LoadError α}

namespace Related

theorem bind_of_eq {k l : α → Except LoadError γ} (h : Related F f x y)
    (hk : ∀ a b, x = .ok a → y = .ok b → f a = f b → Related F g (k a) (l b)) :
    Related F g (x >>= k) (y >>= l) := by
  cases h with
  | ok h => exact hk _ _ rfl rfl h
  | error h => exact .error h
  | stop h => exact .stop h

theorem bind {k l : α → Except LoadError γ} (h : Related F f x y)
    (hk : ∀ a b, f a = f b → Related F g (k a) (l b)) : Related F g (x >>= k) (y >>= l) :=
  h.bind_of_eq fun a b _ _ => hk a b

theorem mono {F' : Faults} (h : Related F f x y) (hsame : ∀ e e', F.Same e e' → F'.Same e e')
    (hstops : ∀ e, F.Stops e → F'.Stops e) : Related F' f x y := by
  cases h with
  | ok h => exact .ok h
  | error h => exact .error (hsame _ _ h)
  | stop h => exact .stop (hstops _ h)

/-- Readings that are the same once `f` is applied to the results have the same faults. -/
theorem of_map_eq (h : x.map f = y.map f) (hsame : ∀ e, x = .error e → F.Same e e) :
    Related F f x y := by
  cases x with
  | ok a =>
      cases y with
      | ok b => exact .ok (Except.ok.inj h)
      | error e => cases h
  | error e =>
      cases y with
      | ok b => cases h
      | error e' =>
          cases h
          exact .error (hsame e rfl)

end Related

namespace SameBy

theorem error {e e' : LoadError} : SameBy f (.error e) (.error e') := Related.error trivial

theorem refl (x : Except LoadError α) : SameBy f x x := by
  cases x with
  | ok a => exact .ok rfl
  | error e => exact .error

theorem symm (h : SameBy f x y) : SameBy f y x := by
  cases h with
  | ok h => exact .ok h.symm
  | error _ => exact .error
  | stop h => exact h.elim

theorem trans (h : SameBy f x y) (h' : SameBy f y z) : SameBy f x z := by
  cases h with
  | ok h =>
      cases h' with
      | ok h' => exact .ok (h.trans h')
  | error _ =>
      cases h' with
      | error _ => exact .error
      | stop h' => exact h'.elim
  | stop h => exact h.elim

theorem of_ok_iff (h : ∀ a, x = .ok a ↔ y = .ok a) : SameBy f x y := by
  cases x with
  | ok a =>
      rw [(h a).mp rfl]
      exact .ok rfl
  | error e =>
      cases y with
      | ok b => cases (h b).mpr rfl
      | error e' => exact .error

end SameBy

end outcomes

/-! ### Parameters written in either way -/

variable {v : Json} {defaults : List Json} {fields : Entries String Json}

theorem isNull_eq_false (h : v ≠ .null) : v.isNull = false := by
  cases v with
  | null => contradiction
  | _ => rfl

theorem childOf_of_ne_null (h : v ≠ .null) (tag key : String) :
    childOf tag key (some v) = node v := by
  simp [childOf, isNull_eq_false h]

theorem optionOf_of_ne_null (h : v ≠ .null) : optionOf (some v) = do return some (← node v) := by
  simp [optionOf, isNull_eq_false h]

theorem nodes_cons (v : Json) (values : List Json) :
    nodes (v :: values) = do
      let first ← optionOf (some v)
      return first :: (← nodes values) := by
  rw [nodes, optionOf]
  split
  · rfl
  · rw [bind_assoc]
    rfl

/-- The default value at the first place and the ones behind it. -/
theorem nodes_eq_ok_iff {Q : Option Node → List (Option Node) → Prop} :
    (∃ read, nodes defaults = .ok read ∧ Q read.head?.join read.tail) ↔
      ∃ first, optionOf (some (defaults.headD .null)) = .ok first ∧
        ∃ others, nodes defaults.tail = .ok others ∧ Q first others := by
  cases defaults with
  | nil =>
      rw [List.headD_nil, List.tail_nil, nodes]
      simp [optionOf, Json.isNull]
  | cons v values =>
      simp only [nodes_cons, bind_eq_ok_iff, pure_eq_ok, Except.ok.injEq, List.headD_cons,
        List.tail_cons]
      constructor
      · rintro ⟨read, ⟨first, hfirst, others, hothers, rfl⟩, hQ⟩
        exact ⟨first, hfirst, others, hothers, by simpa using hQ⟩
      · rintro ⟨first, hfirst, others, hothers, hQ⟩
        exact ⟨_, ⟨first, hfirst, others, hothers, rfl⟩, by simpa using hQ⟩

/-- Parameters are read with these targets and default values, and this one for the remaining
arguments. -/
def ReadsParameters (params defaults : List Json) (rest : Json) (result : List (Param Node))
    (last : Option Node) : Prop :=
  ∃ trailing, optionOf (some rest) = .ok trailing ∧ ∃ others, nodes defaults = .ok others ∧
    ∃ read, nodes params = .ok read ∧ ∃ own, attach others params read = .ok (result, own) ∧
      (own <|> trailing) = last

/-- An unknown tag of a node that was read is the tag it was written with. -/
theorem field_type_of_unknown {n : Node} (h : node v = .ok n)
    (hunknown : Construct.ofTag? n.tag = none) : v.field? "type" = some (.str n.tag) := by
  obtain ⟨span, payload, -, rfl, htype⟩ := unsupported_of_tag h rfl hunknown
  exact htype

/-- A parameter that is no pattern is read as no pattern. -/
theorem tag_ne_of_isPlain {target : Json} (h : IsPlain target) {n : Node}
    (hload : node target = .ok n) : n.tag ≠ "AssignmentPattern" ∧ n.tag ≠ "RestElement" := by
  refine ⟨fun htag => h.2.1 ?_, fun htag => h.2.2 ?_⟩ <;>
  · rw [← htag]
    exact field_type_of_unknown hload (by rw [htag]; rfl)

/-- A pattern is read as an unknown construct. -/
theorem node_pattern {tag : String} (htag : Tagged fields tag)
    (hunknown : Construct.ofTag? tag = none) (hne : tag.isEmpty = false) (hplaced : Placed fields) :
    ∃ n, node (.obj fields) = .ok n ∧ n.tag = tag := by
  obtain ⟨span, hspan⟩ := hplaced
  exact ⟨.unsupported span tag fields, by rw [node_unknown htag hne hunknown, hspan]; rfl, rfl⟩

/-- A list of missing default values is read. -/
theorem nodes_of_null (h : ∀ d ∈ defaults, d = .null) : ∃ read, nodes defaults = .ok read := by
  induction defaults with
  | nil => exact ⟨[], by rw [nodes]⟩
  | cons d defaults ih =>
      rw [List.forall_mem_cons] at h
      obtain ⟨read, hread⟩ := ih h.2
      exact ⟨none :: read, by rw [nodes_cons, h.1, hread]; rfl⟩

theorem readsParameters_nil (h : ∀ d ∈ defaults, d = .null) (rest : Json)
    (result : List (Param Node)) (last : Option Node) :
    ReadsParameters [] defaults rest result last ↔
      result = [] ∧ optionOf (some rest) = .ok last := by
  obtain ⟨others, hothers⟩ := nodes_of_null h
  simp only [ReadsParameters, hothers, nodes, attach_nil_left, Except.ok.injEq, exists_eq_left',
    Prod.mk.injEq]
  constructor
  · rintro ⟨trailing, htrailing, own, ⟨rfl, rfl⟩, rfl⟩
    exact ⟨rfl, htrailing⟩
  · rintro ⟨rfl, hlast⟩
    exact ⟨last, hlast, none, ⟨rfl, rfl⟩, rfl⟩

/-- The first parameter is read with the default value at its place, and the others behind it. -/
theorem readsParameters_cons {n : Node} (hv : v ≠ .null) (hn : node v = .ok n)
    (head : Option Node → Except LoadError (Param Node))
    (hattach : ∀ values params read, attach values (v :: params) (some n :: read) = do
      let first ← head values.head?.join
      let (others, own) ← attach values.tail params read
      return (first :: others, own)) (params defaults : List Json) (rest : Json)
    (result : List (Param Node)) (last : Option Node) :
    ReadsParameters (v :: params) defaults rest result last ↔
      ∃ initial, optionOf (some (defaults.headD .null)) = .ok initial ∧
        ∃ first, head initial = .ok first ∧
          ∃ others, ReadsParameters params defaults.tail rest others last ∧
            first :: others = result := by
  have hnodes : nodes (v :: params) = do return some n :: (← nodes params) := by
    rw [nodes_cons, optionOf_of_ne_null hv, hn]
    rfl
  constructor
  · rintro ⟨trailing, htrailing, values, hvalues, read, hread, own, h, rfl⟩
    rw [hnodes] at hread
    obtain ⟨behind, hbehind, hread⟩ := bind_eq_ok_iff.mp hread
    cases hread
    rw [hattach] at h
    obtain ⟨first, hfirst, h⟩ := bind_eq_ok_iff.mp h
    obtain ⟨⟨others, own'⟩, hothers, h⟩ := bind_eq_ok_iff.mp h
    cases h
    obtain ⟨initial, hinitial, tail, htail, hfirst, hothers⟩ :=
      (nodes_eq_ok_iff (Q := fun initial tail =>
        head initial = .ok first ∧ attach tail params behind = .ok (others, own))).mp
        ⟨values, hvalues, hfirst, hothers⟩
    exact ⟨initial, hinitial, first, hfirst, others,
      ⟨trailing, htrailing, tail, htail, behind, hbehind, own, hothers, rfl⟩, rfl⟩
  · rintro ⟨initial, hinitial, first, hfirst, others,
      ⟨trailing, htrailing, tail, htail, read, hread, own, hothers, rfl⟩, rfl⟩
    obtain ⟨values, hvalues, hfirst, hothers⟩ :=
      (nodes_eq_ok_iff (Q := fun initial tail =>
        head initial = .ok first ∧ attach tail params read = .ok (others, own))).mpr
        ⟨initial, hinitial, tail, htail, hfirst, hothers⟩
    refine ⟨trailing, htrailing, values, hvalues, some n :: read, ?_, own, ?_, rfl⟩
    · rw [hnodes, hread]
      rfl
    · rw [hattach, hfirst, ok_bind, hothers]
      rfl

/-- What parameters are read as, whichever way they are written. -/
def signature : List (Json × Json) → Except LoadError (List (Param Node))
  | [] => .ok []
  | (target, initial) :: rest => do
    let target ← node target
    let initial ← optionOf (some initial)
    let others ← signature rest
    return ⟨target, initial⟩ :: others

theorem readsParameters_rest {trailing pattern : Json} (htrailing : trailing ≠ .null)
    (hpattern : IsRest pattern trailing) (h : ∀ d ∈ defaults, d = .null)
    (result : List (Param Node)) (last : Option Node) :
    ReadsParameters [pattern] defaults .null result last ↔
      result = [] ∧ optionOf (some trailing) = .ok last := by
  obtain ⟨fields, rfl, htag, hargument, hplaced⟩ := hpattern
  obtain ⟨n, hn, hntag⟩ := node_pattern htag rfl rfl hplaced
  obtain ⟨fields', hfields, hattach⟩ := attach_rest hn hntag
  cases hfields
  obtain ⟨others, hothers⟩ := nodes_of_null h
  have hread : nodes [.obj fields] = .ok [some n] := by
    rw [nodes_cons, optionOf_of_ne_null (by simp), hn, nodes]
    rfl
  have hattached : attach others [.obj fields] [some n] = do
      return ([], some (← node trailing)) := by
    rw [hattach, child_eq, hargument, childOf_of_ne_null htrailing, attach_nil_left]
    rfl
  have hnone : optionOf (some .null) = .ok none := rfl
  simp only [ReadsParameters, hnone, hothers, hread, hattached, optionOf_of_ne_null htrailing,
    bind_eq_ok_iff, pure_eq_ok, Except.ok.injEq, exists_eq_left', Prod.mk.injEq]
  constructor
  · rintro ⟨own, ⟨t, ht, rfl, rfl⟩, rfl⟩
    exact ⟨rfl, t, ht, rfl⟩
  · rintro ⟨rfl, t, ht, rfl⟩
    exact ⟨some t, ⟨t, ht, rfl, rfl⟩, rfl⟩

/-- Parameters are read as they are meant. -/
theorem readsParameters_iff {signature : List (Json × Json)} {trailing rest : Json}
    {params : List Json} (h : Parameters signature trailing params defaults rest)
    (result : List (Param Node)) (last : Option Node) :
    ReadsParameters params defaults rest result last ↔
      Load.signature signature = .ok result ∧ optionOf (some trailing) = .ok last := by
  induction h generalizing result with
  | nil hdefaults =>
      rw [readsParameters_nil hdefaults, Load.signature, Except.ok.injEq, eq_comm]
  | @rest trailing pattern defaults hdefaults htrailing hpattern =>
      rw [readsParameters_rest htrailing hpattern hdefaults, Load.signature, Except.ok.injEq,
        eq_comm]
  | @beside target trailing rest signature params defaults htarget h ih =>
      rw [Load.signature]
      cases hn : node target with
      | error e =>
          simp [ReadsParameters, nodes_cons, optionOf_of_ne_null htarget.1, hn]
      | ok n =>
          obtain ⟨hassignment, hrest⟩ := tag_ne_of_isPlain htarget hn
          rw [readsParameters_cons htarget.1 hn (fun initial => .ok ⟨n, initial⟩)
            fun values params read => attach_plain hassignment hrest values target params read]
          simp only [bind_eq_ok_iff, pure_eq_ok, Except.ok.injEq, exists_eq_left', ok_bind, ih]
          grind
  | @assignment target initial pattern trailing rest signature params defaults htarget hinitial
      hpattern hdefault h ih =>
      obtain ⟨fields, rfl, htag, hleft, hright, hplaced⟩ := hpattern
      obtain ⟨n, hn, hntag⟩ := node_pattern htag rfl rfl hplaced
      obtain ⟨fields', hfields, hattach⟩ := attach_assignment hn hntag
      cases hfields
      -- Nothing stands at the place of the parameter in the list of default values.
      have hnone : optionOf (some .null) = .ok none := rfl
      rw [readsParameters_cons (by simp) hn (fun _ => do
        let target ← child "AssignmentPattern" "left" fields
        let initial ← child "AssignmentPattern" "right" fields
        return ⟨target, some initial⟩) (by simpa using hattach), hdefault, hnone]
      simp only [Load.signature, child_eq, hleft, hright, childOf_of_ne_null htarget.1,
        childOf_of_ne_null hinitial, optionOf_of_ne_null hinitial, bind_eq_ok_iff, pure_eq_ok,
        Except.ok.injEq, exists_eq_left', ih]
      grind

/-! ### Functions -/

theorem itemsOf_of_holdsList {key : String} {values : List Json} (h : HoldsList fields key values)
    (tag : String) : itemsOf tag key (fields.get? key) = nodes values := by
  rcases h with h | ⟨h, rfl⟩
  · rw [h, itemsOf]
  · rw [h, itemsOf, nodes]

theorem parametersOf_of_holdsList {params : List Json} (h : HoldsList fields "params" params)
    (tag : String) (defaults : List (Option Node)) :
    parametersOf tag defaults (fields.get? "params") = (do
      let read ← nodes params
      attach defaults params read) := by
  rcases h with h | ⟨h, rfl⟩
  · rw [h, parametersOf]
  · rw [h, parametersOf, nodes, ok_bind, attach_nil_left]

theorem optionOf_getD (field : Option Json) :
    optionOf (some (field.getD .null)) = optionOf field := by
  cases field <;> rfl

/-- A function is read from its parameters, whichever way they are written. -/
theorem build_function {signature : List (Json × Json)} {trailing : Json}
    (h : HasParameters fields signature trailing) (tag : String) (make : Option Span → Node) :
    build tag fields .function = .ok make ↔
      ∃ params, Load.signature signature = .ok params ∧
        ∃ rest, optionOf (some trailing) = .ok rest ∧
          ∃ body, childOf tag "body" (fields.get? "body") = .ok body ∧
            ∃ id, optionOf (fields.get? "id") = .ok id ∧
              (.function · params body id rest (functionFlags fields)) = make := by
  obtain ⟨params, defaults, hparams, hdefaults, h⟩ := h
  have hread := readsParameters_iff h
  simp only [ReadsParameters, optionOf_getD] at hread
  simp only [build, itemsOf_of_holdsList hdefaults, parametersOf_of_holdsList hparams,
    bind_eq_ok_iff, pure_eq_ok, Except.ok.injEq]
  constructor
  · rintro ⟨trailing, htrailing, others, hothers, ⟨result, own⟩, ⟨read, hnodes, hattach⟩, hrest⟩
    obtain ⟨hsignature, hlast⟩ := (hread result (own <|> trailing)).mp
      ⟨trailing, htrailing, others, hothers, read, hnodes, own, hattach, rfl⟩
    exact ⟨result, hsignature, _, hlast, hrest⟩
  · rintro ⟨result, hsignature, last, hlast, hrest⟩
    obtain ⟨trailing, htrailing, others, hothers, read, hnodes, own, hattach, rfl⟩ :=
      (hread result last).mpr ⟨hsignature, hlast⟩
    exact ⟨trailing, htrailing, others, hothers, (result, own), ⟨read, hnodes, hattach⟩, hrest⟩

/-! ### Encodings -/

/-- Two constructs, up to the places and written forms of their nodes. -/
def erased (make : Option Span → Node) (span : Option Span) : Node :=
  (make span).relabel .placed

/-- Nodes of known constructs are read alike if they are built alike and stand at one place. -/
theorem node_same {f g : Entries String Json} {tag tag' : String} {c c' : Construct}
    (hf : Tagged f tag) (hc : Construct.ofTag? tag = some c) (hg : Tagged g tag')
    (hc' : Construct.ofTag? tag' = some c') (hloc : f.get? "loc" = g.get? "loc")
    (h : SameBy erased (build tag f c) (build tag' g c')) :
    SameBy (Node.relabel .placed) (node (.obj f)) (node (.obj g)) := by
  have hspan : spanField f = spanField g := by rw [spanField, spanField, hloc]
  rw [node_known hf hc, node_known hg hc', hspan]
  refine h.bind fun make make' hmake => ?_
  cases spanField g with
  | error e => exact SameBy.error
  | ok span => exact .ok (congrFun hmake span)

theorem patternField_eq_null (h : ∀ regex, fields.get? "regex" ≠ some (.obj regex)) :
    patternField fields = .null := by
  rw [patternField]
  split
  · next regex hregex => exact absurd hregex (h regex)
  · rfl

theorem childOf_same_self (tag tag' key : String) (field : Option Json) :
    SameBy (Node.relabel .placed) (childOf tag key field) (childOf tag' key field) := by
  cases field with
  | none => exact .error
  | some v =>
      rw [childOf, childOf]
      split
      · exact .error
      · exact .refl _

/-- The two ways to write a node give the same tree, up to written forms. -/
theorem encoding_same {f g : Entries String Json} (h : Encoding f g)
    (hloc : f.get? "loc" = g.get? "loc") :
    SameBy (Node.relabel .placed) (node (.obj f)) (node (.obj g)) := by
  cases h with
  | @typed tag v htag hf hvalue hg hvalue' hregex =>
      have hc : Construct.ofTag? tag = some .typedLiteral := by
        rcases htag with rfl | rfl | rfl <;> rfl
      refine node_same hf hc hg rfl hloc ?_
      rw [build, build, hvalue, hvalue', patternField_eq_null hregex]
      exact .ok rfl
  | null hf hg hvalue hregex =>
      refine node_same hf rfl hg rfl hloc ?_
      rw [build, build, hvalue, patternField_eq_null hregex]
      exact .ok rfl
  | @regex pattern regex hf hpattern hg hvalue hregex hpattern' =>
      refine node_same hf rfl hg rfl hloc ?_
      have htext : textField f "pattern" "" = pattern := by
        rw [textField, hpattern]
        rfl
      have hfield : patternField g = .str pattern := by
        simp only [patternField, hregex, hpattern', Option.getD_some]
      rw [build, build, hvalue, htext, hfield]
      exact .ok rfl
  | property hf hkind hmethod hg hkind' hmethod' hsame =>
      refine node_same hf rfl hg rfl hloc ?_
      have hinit : kindField f = "init" := by simp [kindField, flagField, textField, hmethod, hkind]
      have hinit' : kindField g = "init" := by
        have hflag : flagField g "method" = false := by
          rw [flagField]
          split
          · next v hv => exact hmethod' v hv
          · rfl
        rw [kindField, hflag, textField, hkind']
        rfl
      have hcomputed : flagField f "computed" = flagField g "computed" := by
        rw [flagField, flagField, hsame "computed" (by simp)]
      simp only [build, hinit, hinit', hcomputed, hsame "key" (by simp), hsame "value" (by simp)]
      refine (childOf_same_self _ _ _ _).bind fun key key' hk => ?_
      refine (childOf_same_self _ _ _ _).bind fun value value' hv => ?_
      exact .ok (funext fun span => by simp only [erased, Node.relabel, hk, hv])
  | logical hf hg hsame =>
      refine node_same hf rfl hg rfl hloc ?_
      have hoperator : textField f "operator" "None" = textField g "operator" "None" := by
        rw [textField, textField, hsame "operator" (by simp)]
      simp only [build, hoperator, hsame "left" (by simp), hsame "right" (by simp)]
      refine (childOf_same_self _ _ _ _).bind fun left left' hl => ?_
      refine (childOf_same_self _ _ _ _).bind fun right right' hr => ?_
      exact .ok (funext fun span => by simp only [erased, Node.relabel, hl, hr])
  | function hf hparams hg hparams' hsame =>
      refine node_same hf rfl hg rfl hloc (.of_ok_iff fun make => ?_)
      have hflags : functionFlags f = functionFlags g := by
        simp only [functionFlags, flagField, hsame "generator" (by simp),
          hsame "expression" (by simp), hsame "async" (by simp)]
      rw [build_function hparams, build_function hparams', hflags, hsame "body" (by simp),
        hsame "id" (by simp)]

end Load

end PfaScript
