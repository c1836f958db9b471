import PfaScript.Proofs.Children
import PfaScript.Proofs.Outcome
import PfaScript.Script.Load

/-!
# What the loader reads

What the loader reads of a node depends only on the values that the node's fields have:
`Load.childOf`, `Load.optionOf`, `Load.itemsOf` and `Load.parametersOf` read the value of a field,
and the loader's functions look the field up first. `Load.build` puts a node of a known construct
together in this way, so that a node is read by its construct (`Load.node_known`) and what was read
can be taken apart by it (`Load.node_eq_ok`). Every child of a node that was read was read itself
(`Load.loaded_of_mem_children`).
-/

namespace PfaScript

namespace Load

/-! ### Fields that hold nodes -/

/-- Reads the child that a field holds, which must be there. -/
def childOf (tag key : String) : Option Json → Except LoadError Node
  | some v => if v.isNull then .error (.malformed (.missingChild tag key)) else node v
  | none => .error (.malformed (.missingChild tag key))

/-- Reads the child that a field holds, if there is one. -/
def optionOf : Option Json → Except LoadError (Option Node)
  | some v => if v.isNull then .ok none else do return some (← node v)
  | none => .ok none

/-- Reads the list of children that a field holds, with holes. -/
def itemsOf (tag key : String) : Option Json → Except LoadError (List (Option Node))
  | some (.arr values) => nodes values
  | some _ => .error (.malformed (.notAList tag key))
  | none => .ok []

/-- Reads the parameters that a field holds, and the one that takes the remaining arguments. -/
def parametersOf (tag : String) (defaults : List (Option Node)) :
    Option Json → Except LoadError (List (Param Node) × Option Node)
  | some (.arr values) => do
    let read ← nodes values
    attach defaults values read
  | some _ => .error (.malformed (.notAList tag "params"))
  | none => .ok ([], none)

/-- A search through fields depends on what stands under its key, and on nothing else. -/
theorem eq_of_search {α : Type} {search : Entries String Json → α} {found : Option Json → α}
    {key : String} (hnil : search [] = found none)
    (hcons : ∀ k v rest, search ((k, v) :: rest) = if k = key then found (some v) else search rest)
    (fields : Entries String Json) : search fields = found (fields.get? key) := by
  induction fields with
  | nil => exact hnil
  | cons entry rest ih =>
      obtain ⟨k, v⟩ := entry
      rw [hcons, Entries.get?, ih]
      by_cases hk : k = key
      · rw [if_pos hk, if_pos (beq_iff_eq.mpr hk)]
      · rw [if_neg hk, if_neg (mt beq_iff_eq.mp hk)]

theorem child_eq (tag key : String) (fields : Entries String Json) :
    child tag key fields = childOf tag key (fields.get? key) := by
  refine eq_of_search rfl (fun k v rest => ?_) fields
  rw [child, childOf]

theorem option_eq (key : String) (fields : Entries String Json) :
    option key fields = optionOf (fields.get? key) := by
  refine eq_of_search rfl (fun k v rest => ?_) fields
  rw [option, optionOf]

theorem items_eq (tag key : String) (fields : Entries String Json) :
    items tag key fields = itemsOf tag key (fields.get? key) := by
  refine eq_of_search rfl (fun k v rest => ?_) fields
  cases v <;> simp only [items, itemsOf]

theorem parameters_eq (tag : String) (defaults : List (Option Node))
    (fields : Entries String Json) :
    parameters tag defaults fields = parametersOf tag defaults (fields.get? "params") := by
  refine eq_of_search rfl (fun k v rest => ?_) fields
  cases v <;> simp only [parameters, parametersOf]

/-! ### Constructs -/

/-- What a node of a known construct is made of, up to its place. -/
def build (tag : String) (fields : Entries String Json) :
    Construct → Except LoadError (Option Span → Node)
  | .literal =>
    .ok (.literal · (fields.get? "raw") ((fields.get? "value").getD .null) (patternField fields))
  | .typedLiteral => .ok (.literal · none ((fields.get? "value").getD .null) .null)
  | .nullLiteral => .ok (.literal · none .null .null)
  | .regexLiteral => .ok (.literal · none .null (.str (textField fields "pattern" "")))
  | .identifier => do
    let name ← nameField fields
    return (.identifier · name)
  | .array => do
    let elements ← itemsOf tag "elements" (fields.get? "elements")
    return (.array · elements)
  | .object => do
    let properties ← itemsOf tag "properties" (fields.get? "properties")
    return (.object · properties.reduceOption)
  | .property => do
    let key ← childOf tag "key" (fields.get? "key")
    let value ← childOf tag "value" (fields.get? "value")
    return (.property · key value (kindField fields) (flagField fields "computed"))
  | .member => do
    let base ← childOf tag "object" (fields.get? "object")
    let access ← childOf tag "property" (fields.get? "property")
    return (.member · base access (flagField fields "computed"))
  | .unary => do
    let argument ← childOf tag "argument" (fields.get? "argument")
    return (.unary · (textField fields "operator" "None") argument (flagField fields "prefix" true))
  | .binary => do
    let left ← childOf tag "left" (fields.get? "left")
    let right ← childOf tag "right" (fields.get? "right")
    return (.binary · (textField fields "operator" "None") left right)
  | .conditional => do
    let test ← childOf tag "test" (fields.get? "test")
    let consequent ← childOf tag "consequent" (fields.get? "consequent")
    let alternate ← childOf tag "alternate" (fields.get? "alternate")
    return (.conditional · test consequent alternate)
  | .call => do
    let callee ← childOf tag "callee" (fields.get? "callee")
    let arguments ← itemsOf tag "arguments" (fields.get? "arguments")
    return (.call · callee arguments.reduceOption)
  | .construct => do
    let callee ← childOf tag "callee" (fields.get? "callee")
    let arguments ← itemsOf tag "arguments" (fields.get? "arguments")
    return (.construct · callee arguments.reduceOption)
  | .function => do
    let trailing ← optionOf (fields.get? "rest")
    let defaults ← itemsOf tag "defaults" (fields.get? "defaults")
    let (params, rest) ← parametersOf tag defaults (fields.get? "params")
    let body ← childOf tag "body" (fields.get? "body")
    let id ← optionOf (fields.get? "id")
    return (.function · params body id (rest <|> trailing) (functionFlags fields))
  | .declarator => do
    let target ← childOf tag "id" (fields.get? "id")
    let init ← optionOf (fields.get? "init")
    return fun span => .declarator ⟨span, target, init⟩
  | .declaration => do
    let nodes ← itemsOf tag "declarations" (fields.get? "declarations")
    let declared ← declarators nodes.reduceOption
    return (.declaration · declared (textField fields "kind" "var"))
  | .assignment => do
    let left ← childOf tag "left" (fields.get? "left")
    let right ← childOf tag "right" (fields.get? "right")
    return (.assignment · (textField fields "operator" "None") left right)
  | .update => do
    let argument ← childOf tag "argument" (fields.get? "argument")
    return (.update · (textField fields "operator" "None") argument (flagField fields "prefix"))
  | .sequence => do
    let expressions ← itemsOf tag "expressions" (fields.get? "expressions")
    return (.sequence · expressions.reduceOption)
  | .block => do
    let body ← itemsOf tag "body" (fields.get? "body")
    return (.block · body.reduceOption)
  | .expressionStatement => do
    let inner ← childOf tag "expression" (fields.get? "expression")
    return (.expressionStatement · inner)
  | .conditionalStatement => do
    let test ← childOf tag "test" (fields.get? "test")
    let consequent ← childOf tag "consequent" (fields.get? "consequent")
    let alternate ← optionOf (fields.get? "alternate")
    return (.conditionalStatement · test consequent alternate)
  | .whileLoop => do
    let test ← childOf tag "test" (fields.get? "test")
    let body ← childOf tag "body" (fields.get? "body")
    return (.whileLoop · test body)
  | .doWhileLoop => do
    let body ← childOf tag "body" (fields.get? "body")
    let test ← childOf tag "test" (fields.get? "test")
    return (.doWhileLoop · body test)
  | .forLoop => do
    let init ← optionOf (fields.get? "init")
    let test ← optionOf (fields.get? "test")
    let step ← optionOf (fields.get? "update")
    let body ← childOf tag "body" (fields.get? "body")
    return (.forLoop · init test step body)
  | .forInLoop => do
    let left ← childOf tag "left" (fields.get? "left")
    let right ← childOf tag "right" (fields.get? "right")
    let body ← childOf tag "body" (fields.get? "body")
    return (.forInLoop · left right body)
  | .throwStatement => do
    let argument ← childOf tag "argument" (fields.get? "argument")
    return (.throwStatement · argument)
  | .empty => .ok .empty
  | .program => do
    let body ← itemsOf tag "body" (fields.get? "body")
    return (.program · body.reduceOption)

/-- Known constructs have tags. -/
theorem isEmpty_eq_false_of_known {tag : String} {c : Construct}
    (h : Construct.ofTag? tag = some c) : tag.isEmpty = false := by
  by_contra hempty
  rw [Bool.not_eq_false, String.isEmpty_iff] at hempty
  subst hempty
  cases h

/-- A node of a known construct is read field by field. -/
theorem node_known {fields : Entries String Json} {tag : String} {c : Construct}
    (htag : fields.get? "type" = some (.str tag)) (hc : Construct.ofTag? tag = some c) :
    node (.obj fields) = do
      let make ← build tag fields c
      let span ← spanField fields
      return make span := by
  rw [node]
  simp only [htag, isEmpty_eq_false_of_known hc, hc]
  cases c <;> simp only [build, child_eq, option_eq, items_eq, parameters_eq] <;> rfl

/-- A node of an unknown construct is kept with all its fields. -/
theorem node_unknown {fields : Entries String Json} {tag : String}
    (htag : fields.get? "type" = some (.str tag)) (hne : tag.isEmpty = false)
    (hc : Construct.ofTag? tag = none) :
    node (.obj fields) = do
      let span ← spanField fields
      return .unsupported span tag fields := by
  rw [node]
  simp only [htag, hne, hc]
  rfl

/-- What is read is an object with a tag, of an unknown construct or of a known one. -/
theorem node_eq_ok {v : Json} {tree : Node} (h : node v = .ok tree) :
    ∃ (fields : Entries String Json) (tag : String) (span : Option Span),
      v = .obj fields ∧ fields.get? "type" = some (.str tag) ∧ spanField fields = .ok span ∧
        ((Construct.ofTag? tag = none ∧ tree = .unsupported span tag fields) ∨
          ∃ c make, Construct.ofTag? tag = some c ∧ build tag fields c = .ok make ∧
            tree = make span) := by
  cases v with
  | obj fields =>
      have hload := h
      rw [node] at h
      split at h
      case h_2 => cases h
      case h_1 tag htag =>
      split at h
      case isTrue => cases h
      case isFalse hne =>
      rw [Bool.not_eq_true] at hne
      cases hc : Construct.ofTag? tag with
      | none =>
          rw [node_unknown htag hne hc] at hload
          obtain ⟨span, hspan, hload⟩ := bind_eq_ok_iff.mp hload
          cases hload
          exact ⟨fields, tag, span, rfl, htag, hspan, .inl ⟨hc, rfl⟩⟩
      | some c =>
          rw [node_known htag hc] at hload
          obtain ⟨make, hmake, hload⟩ := bind_eq_ok_iff.mp hload
          obtain ⟨span, hspan, hload⟩ := bind_eq_ok_iff.mp hload
          cases hload
          exact ⟨fields, tag, span, rfl, htag, hspan, .inr ⟨c, make, hc, hmake, rfl⟩⟩
  | _ => simp [node] at h

/-- No known construct is built as an unknown one. -/
theorem build_ne_unsupported {fields : Entries String Json} {tag : String} {c : Construct}
    {make : Option Span → Node} (h : build tag fields c = .ok make) (span place : Option Span)
    (name : String) (payload : List (String × Json)) :
    make span ≠ .unsupported place name payload := by
  cases c
  all_goals
    simp only [build, bind_eq_ok_iff, pure_eq_ok, Except.ok.injEq, funext_iff] at h
    grind

/-- A node of an unknown construct keeps its tag and all its fields. -/
theorem node_eq_unsupported {v : Json} {span : Option Span} {tag : String}
    {payload : List (String × Json)} (h : node v = .ok (.unsupported span tag payload)) :
    v = .obj payload ∧ v.field? "type" = some (.str tag) := by
  obtain ⟨fields, tag, span, rfl, htype, -, hcases⟩ := node_eq_ok h
  rcases hcases with ⟨-, hn⟩ | ⟨c, make, -, hmake, hn⟩
  · cases hn
    exact ⟨rfl, htype⟩
  · exact absurd hn.symm (build_ne_unsupported hmake _ _ _ _)

/-- A node with an unknown tag is kept as it was written. -/
theorem unsupported_of_tag {n : Node} {v : Json} {tag : String} (hload : node v = .ok n)
    (htag : n.tag = tag) (hunknown : Construct.ofTag? tag = none) :
    ∃ span payload, n = .unsupported span tag payload ∧ v = .obj payload ∧
      v.field? "type" = some (.str tag) := by
  subst htag
  cases n with
  | unsupported span tag payload => exact ⟨span, payload, rfl, node_eq_unsupported hload⟩
  | _ => cases hunknown

/-! ### Parameters -/

theorem attach_nil_left (defaults read : List (Option Node)) :
    attach defaults [] read = .ok ([], none) := by
  rw [attach] <;> simp

theorem attach_nil_right (defaults : List (Option Node)) (values : List Json) :
    attach defaults values [] = .ok ([], none) := by
  rw [attach] <;> simp

theorem attach_hole (defaults : List (Option Node)) (v : Json) (values : List Json)
    (read : List (Option Node)) :
    attach defaults (v :: values) (none :: read) = attach defaults values read := by
  rw [attach]

/-- A parameter that is no pattern is kept as it is read. -/
theorem attach_plain {param : Node} (hassignment : param.tag ≠ "AssignmentPattern")
    (hrest : param.tag ≠ "RestElement") (defaults : List (Option Node)) (v : Json)
    (values : List Json) (read : List (Option Node)) :
    attach defaults (v :: values) (some param :: read) = do
      let (params, rest) ← attach defaults.tail values read
      return (⟨param, defaults.head?.join⟩ :: params, rest) := by
  rw [attach]
  · rintro span payload fields rfl -
    exact hassignment rfl
  · rintro span payload fields rfl -
    exact hrest rfl

/-- A parameter that is a pattern with a default value is read from its parts. -/
theorem attach_assignment {param : Node} {v : Json} (hload : node v = .ok param)
    (htag : param.tag = "AssignmentPattern") :
    ∃ fields, v = .obj fields ∧ ∀ defaults values read,
      attach defaults (v :: values) (some param :: read) = do
        let target ← child "AssignmentPattern" "left" fields
        let initial ← child "AssignmentPattern" "right" fields
        let (params, rest) ← attach defaults.tail values read
        return (⟨target, some initial⟩ :: params, rest) := by
  obtain ⟨span, payload, rfl, rfl, -⟩ := unsupported_of_tag hload htag rfl
  refine ⟨payload, rfl, fun defaults values read => ?_⟩
  rw [attach]

/-- A parameter that takes the remaining arguments is read from its part. -/
theorem attach_rest {param : Node} {v : Json} (hload : node v = .ok param)
    (htag : param.tag = "RestElement") :
    ∃ fields, v = .obj fields ∧ ∀ defaults values read,
      attach defaults (v :: values) (some param :: read) = do
        let trailing ← child "RestElement" "argument" fields
        let (params, rest) ← attach defaults.tail values read
        return (params, rest <|> some trailing) := by
  obtain ⟨span, payload, rfl, rfl, -⟩ := unsupported_of_tag hload htag rfl
  refine ⟨payload, rfl, fun defaults values read => ?_⟩
  rw [attach]

/-! ### Children -/

/-- A node that is read from some value. -/
def Loaded (n : Node) : Prop :=
  ∃ v, node v = .ok n

/-- A property of values that passes on to their parts. -/
structure Hereditary (P : Json → Prop) : Prop where
  field {fields : Entries String Json} {key : String} {v : Json} :
    P (.obj fields) → fields.get? key = some v → P v
  item {values : List Json} {v : Json} : P (.arr values) → v ∈ values → P v

/-- A node that is read from some value with the property. -/
def LoadedFrom (P : Json → Prop) (n : Node) : Prop :=
  ∃ v, P v ∧ node v = .ok n

/-- The field, if it is there, has the property. -/
def FieldHas (P : Json → Prop) (field : Option Json) : Prop :=
  ∀ v, field = some v → P v

variable {P : Json → Prop}

theorem Hereditary.fieldHas (hP : Hereditary P) {fields : Entries String Json}
    (h : P (.obj fields)) (key : String) : FieldHas P (fields.get? key) :=
  fun _ hget => hP.field h hget

theorem childOf_loaded {tag key : String} {field : Option Json} {n : Node}
    (hfield : FieldHas P field) (h : childOf tag key field = .ok n) : LoadedFrom P n := by
  cases field with
  | none => cases h
  | some v =>
      rw [childOf] at h
      split at h
      · cases h
      · exact ⟨v, hfield v rfl, h⟩

theorem optionOf_loaded {field : Option Json} {n : Node} (hfield : FieldHas P field)
    (h : optionOf field = .ok (some n)) : LoadedFrom P n := by
  cases field with
  | none => cases h
  | some v =>
      rw [optionOf] at h
      split at h
      · cases h
      · obtain ⟨first, hfirst, h⟩ := bind_eq_ok_iff.mp h
        cases h
        exact ⟨v, hfield v rfl, hfirst⟩

theorem nodes_loaded {values : List Json} {read : List (Option Node)}
    (hvalues : ∀ v ∈ values, P v) (h : nodes values = .ok read) {n : Node} (hn : some n ∈ read) :
    LoadedFrom P n := by
  induction values generalizing read with
  | nil =>
      rw [nodes] at h
      cases h
      cases hn
  | cons v values ih =>
      rw [List.forall_mem_cons] at hvalues
      rw [nodes] at h
      split at h
      · obtain ⟨others, hothers, h⟩ := bind_eq_ok_iff.mp h
        cases h
        exact ih hvalues.2 hothers (by simpa using hn)
      · obtain ⟨first, hfirst, h⟩ := bind_eq_ok_iff.mp h
        obtain ⟨others, hothers, h⟩ := bind_eq_ok_iff.mp h
        cases h
        rcases List.mem_cons.mp hn with hn | hn
        · cases hn
          exact ⟨v, hvalues.1, hfirst⟩
        · exact ih hvalues.2 hothers hn

theorem itemsOf_loaded (hP : Hereditary P) {tag key : String} {field : Option Json}
    {read : List (Option Node)} (hfield : FieldHas P field) (h : itemsOf tag key field = .ok read)
    {n : Node} (hn : n ∈ read.reduceOption) : LoadedFrom P n := by
  rw [List.reduceOption_mem_iff] at hn
  cases field with
  | none =>
      cases h
      cases hn
  | some v =>
      cases v with
      | arr values => exact nodes_loaded (fun w hw => hP.item (hfield _ rfl) hw) h hn
      | _ => cases h

/-- A declaration holds the declarators among its nodes. -/
theorem declarator_mem {nodes : List Node} {declared : List (Declarator Node)}
    (h : declarators nodes = .ok declared) {n : Node} (hn : n ∈ declared.map .declarator) :
    n ∈ nodes := by
  induction nodes generalizing declared with
  | nil =>
      rw [declarators] at h
      cases h
      cases hn
  | cons node rest ih =>
      cases node with
      | declarator first =>
          rw [declarators] at h
          obtain ⟨others, hothers, h⟩ := bind_eq_ok_iff.mp h
          cases h
          rcases List.mem_cons.mp hn with rfl | hn
          · exact List.mem_cons_self
          · exact List.mem_cons_of_mem _ (ih hothers hn)
      | _ => simp only [declarators] at h; cases h

/-- The parameters of a function, their default values and the one that takes the remaining
arguments were read, if the default values beside them were. -/
theorem attach_loaded (hP : Hereditary P) {defaults : List (Option Node)}
    (hdefaults : ∀ n, some n ∈ defaults → LoadedFrom P n) {values : List Json}
    (hvalues : ∀ v ∈ values, P v) {read : List (Option Node)} (hread : nodes values = .ok read)
    {params : List (Param Node)} {rest : Option Node}
    (h : attach defaults values read = .ok (params, rest)) :
    (∀ param ∈ params, LoadedFrom P param.target ∧ ∀ n, param.initial = some n → LoadedFrom P n) ∧
      ∀ n, rest = some n → LoadedFrom P n := by
  induction values generalizing defaults read params rest with
  | nil =>
      rw [attach_nil_left] at h
      cases h
      simp
  | cons v values ih =>
      rw [List.forall_mem_cons] at hvalues
      obtain ⟨hv, hvalues⟩ := hvalues
      rw [nodes] at hread
      split at hread
      · obtain ⟨others, hothers, hread⟩ := bind_eq_ok_iff.mp hread
        cases hread
        rw [attach_hole] at h
        exact ih hdefaults hvalues hothers h
      obtain ⟨param, hparam, hread⟩ := bind_eq_ok_iff.mp hread
      obtain ⟨others, hothers, hread⟩ := bind_eq_ok_iff.mp hread
      cases hread
      have htail : ∀ n, some n ∈ defaults.tail → LoadedFrom P n :=
        fun n hn => hdefaults n (List.mem_of_mem_tail hn)
      by_cases hassignment : param.tag = "AssignmentPattern"
      · obtain ⟨fields, rfl, hattach⟩ := attach_assignment hparam hassignment
        rw [hattach, child_eq, child_eq] at h
        obtain ⟨target, htarget, h⟩ := bind_eq_ok_iff.mp h
        obtain ⟨initial, hinitial, h⟩ := bind_eq_ok_iff.mp h
        obtain ⟨⟨params', rest'⟩, hparams, h⟩ := bind_eq_ok_iff.mp h
        cases h
        obtain ⟨hparams, hrest⟩ := ih htail hvalues hothers hparams
        refine ⟨List.forall_mem_cons.mpr ⟨⟨?_, ?_⟩, hparams⟩, hrest⟩
        · exact childOf_loaded (hP.fieldHas hv _) htarget
        · rintro n ⟨⟩
          exact childOf_loaded (hP.fieldHas hv _) hinitial
      by_cases hrest : param.tag = "RestElement"
      · obtain ⟨fields, rfl, hattach⟩ := attach_rest hparam hrest
        rw [hattach, child_eq] at h
        obtain ⟨trailing, htrailing, h⟩ := bind_eq_ok_iff.mp h
        obtain ⟨⟨params', rest'⟩, hparams, h⟩ := bind_eq_ok_iff.mp h
        cases h
        obtain ⟨hparams, hrest⟩ := ih htail hvalues hothers hparams
        refine ⟨hparams, fun n hn => ?_⟩
        cases rest' with
        | none =>
            cases hn
            exact childOf_loaded (hP.fieldHas hv _) htrailing
        | some other => exact hrest n hn
      · rw [attach_plain hassignment hrest] at h
        obtain ⟨⟨params', rest'⟩, hparams, h⟩ := bind_eq_ok_iff.mp h
        cases h
        obtain ⟨hparams, hrest⟩ := ih htail hvalues hothers hparams
        refine
          ⟨List.forall_mem_cons.mpr ⟨⟨⟨v, hv, hparam⟩, fun n hn => hdefaults n ?_⟩, hparams⟩, hrest⟩
        cases defaults with
        | nil => cases hn
        | cons first others =>
            rw [List.head?_cons, Option.join_some] at hn
            exact hn ▸ List.mem_cons_self

theorem parametersOf_loaded (hP : Hereditary P) {tag : String} {defaults : List (Option Node)}
    (hdefaults : ∀ n, some n ∈ defaults → LoadedFrom P n) {field : Option Json}
    (hfield : FieldHas P field)
    {params : List (Param Node)} {rest : Option Node}
    (h : parametersOf tag defaults field = .ok (params, rest)) :
    (∀ param ∈ params, LoadedFrom P param.target ∧ ∀ n, param.initial = some n → LoadedFrom P n) ∧
      ∀ n, rest = some n → LoadedFrom P n := by
  cases field with
  | none =>
      cases h
      simp
  | some v =>
      cases v with
      | arr values =>
          obtain ⟨read, hread, h⟩ := bind_eq_ok_iff.mp h
          exact attach_loaded hP hdefaults (fun w hw => hP.item (hfield _ rfl) hw) hread h
      | _ => cases h

/-- **Every child of a node was read from a part of the value that the node was read from.** -/
theorem loadedFrom_of_mem_children (hP : Hereditary P) {n child : Node} (h : LoadedFrom P n)
    (hchild : child ∈ n.children) : LoadedFrom P child := by
  obtain ⟨v, hv, h⟩ := h
  obtain ⟨fields, tag, span, rfl, -, -, hcases⟩ := node_eq_ok h
  have hfields := hP.fieldHas hv
  rcases hcases with ⟨-, rfl⟩ | ⟨c, make, -, hmake, rfl⟩
  · cases hchild
  cases c
  all_goals
    simp only [build, bind_eq_ok_iff, pure_eq_ok, Except.ok.injEq, funext_iff] at hmake
  case function =>
    obtain ⟨trailing, htrailing, defaults, hdefaults, ⟨params, rest⟩, hparams, body, hbody, id,
      hid, hmake⟩ := hmake
    obtain ⟨hparams, hrest⟩ := parametersOf_loaded hP
      (fun n hn => itemsOf_loaded hP (hfields _) hdefaults (List.reduceOption_mem_iff.mpr hn))
      (hfields _) hparams
    have hlast : ∀ n, (rest <|> trailing) = some n → LoadedFrom P n := by
      intro n hn
      cases rest with
      | none => exact optionOf_loaded (hfields _) (htrailing.trans (congrArg _ hn))
      | some other => exact hrest n hn
    rw [← hmake span] at hchild
    simp only [Node.children, List.mem_append, List.mem_map, List.reduceOption_mem_iff,
      Option.mem_toList, List.mem_singleton] at hchild
    grind [childOf_loaded, optionOf_loaded]
  case declaration =>
    obtain ⟨nodes, hnodes, declared, hdeclared, hmake⟩ := hmake
    rw [← hmake span] at hchild
    exact itemsOf_loaded hP (hfields _) hnodes (declarator_mem hdeclared hchild)
  -- the children of every other construct stand in its fields
  all_goals
    grind [Node.children, childOf_loaded, optionOf_loaded, itemsOf_loaded]

/-- Every child of a node that was read was read itself. -/
theorem loaded_of_mem_children {n child : Node} (h : Loaded n) (hchild : child ∈ n.children) :
    Loaded child := by
  obtain ⟨v, h⟩ := h
  have hany : Hereditary fun _ => True := ⟨fun _ _ => trivial, fun _ _ => trivial⟩
  obtain ⟨w, -, hw⟩ := loadedFrom_of_mem_children hany ⟨v, trivial, h⟩ hchild
  exact ⟨w, hw⟩

end Load

end PfaScript
