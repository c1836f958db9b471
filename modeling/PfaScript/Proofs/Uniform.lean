import PfaScript.Proofs.Accounting
import PfaScript.Proofs.Entries
import PfaScript.Proofs.FieldInversion

/-!
# Properties of all values in a document

A property of values that passes from the parts of a value to the whole (`Results.Uniform`) holds of
all results of the compiler (`Results.Uniform.closed`), and so of the fields of a document
(`Results.Uniform.of_compile`).
-/

namespace PfaScript

open Node

/-- No slot is called by the key of markers. -/
theorem Store.slot_ne_markerKey (store : Store) : store.slot ≠ markerKey := by
  cases store <;> decide

/-- No field has the key of markers. -/
theorem Document.ne_markerKey_of_ofKey? {key : String} {field : Field}
    (h : Field.ofKey? key = some field) : key ≠ markerKey := by
  have hkey : field.key = key := by simpa using List.find?_some h
  rw [← hkey]
  cases field <;> decide

namespace Results

variable (N : Node → Prop) (placed : Option Span → Prop) (named : String → Prop) (P : Json → Prop)

/-- The same property for results of all kinds. -/
def uniform : Results := ⟨placed, named, P, P, P, P, P, P, P⟩

/-- A property that passes from the parts of a value to the whole. -/
structure Uniform : Prop where
  place {node : Node} : N node → placed node.span
  variableName {span : Option Span} {name : String} : N (.identifier span name) → named name
  fixedName {name : String} : name ≠ markerKey → named name
  literal {span : Option Span} {raw : Option Json} {value pattern : Json} :
    N (.literal span raw value pattern) → P value
  bool (b : Bool) : P (.bool b)
  one : P (.int 1)
  negated {value number : Json} : P value → value.negated? = some number → P number
  whole {x : Double} {n : Int} : P (.float x) → x.toInt? = some n → P (.int n)
  str (text : String) : P (.str text)
  arr {items : List Json} : (∀ item ∈ items, P item) → P (.arr items)
  mapping {span : Option Span} {entries : Entries String Json} :
    placed span → (∀ entry ∈ entries, named entry.1 ∧ P entry.2) → P (tagged span entries)
  ofList {entries : List (String × Json)} :
    (∀ entry ∈ entries, named entry.1 ∧ P entry.2) → P (.obj (Entries.ofList entries))
  insert {entries : Entries String Json} {key : String} {v : Json} :
    P (.obj entries) → key ≠ markerKey → P v → P (.obj (entries.insert key v))

/-- The entries have names that the compiler gives, and values with the property. -/
def Fields (entries : List (String × Json)) : Prop :=
  ∀ entry ∈ entries, entry.1 ≠ markerKey ∧ P entry.2

variable {N placed named P}

theorem Fields.cons {key : String} {v : Json} {entries : List (String × Json)}
    (hkey : key ≠ markerKey) (hv : P v) (h : Fields P entries) : Fields P ((key, v) :: entries) :=
  List.forall_mem_cons.mpr ⟨⟨hkey, hv⟩, h⟩

theorem Fields.single {key : String} {v : Json} (hkey : key ≠ markerKey) (hv : P v) :
    Fields P [(key, v)] :=
  List.forall_mem_singleton.mpr ⟨hkey, hv⟩

namespace Uniform

variable (h : Uniform N placed named P)

include h

/-! ### Terms -/

theorem fields {span : Option Span} {entries : Entries String Json} (hspan : placed span)
    (hentries : Fields P entries) : P (tagged span entries) :=
  h.mapping hspan fun entry hentry =>
    ⟨h.fixedName (hentries entry hentry).1, (hentries entry hentry).2⟩

theorem conditionalTerm {span : Option Span} {first : Entries String Json}
    {others : List (Entries String Json)} {otherwise : Option (List Json)} (hspan : placed span)
    (hfirst : P (.obj first)) (hothers : ∀ branch ∈ others, P (.obj branch))
    (hotherwise : ∀ body ∈ otherwise, ∀ item ∈ body, P item) :
    P (conditionalTerm span first others otherwise) := by
  have hchoice : P (.obj (choice span first others)) := by
    cases others with
    | nil => exact hfirst
    | cons second rest =>
        refine h.fields hspan (.single (by decide) (h.arr ?_))
        intro item hitem
        obtain ⟨entries, hentries, rfl⟩ := List.mem_map.mp hitem
        rcases List.mem_cons.mp hentries with rfl | hrest
        · exact hfirst
        · exact hothers entries hrest
  cases otherwise with
  | none => exact hchoice
  | some body =>
      rw [conditionalTerm_some]
      exact h.insert hchoice (by decide) (h.arr (hotherwise body rfl))

/-- The property holds of all results. -/
theorem closed : (uniform placed named P).Closed N where
  place := h.place
  variableName := h.variableName
  fixedName := h.fixedName
  literalValue := h.literal
  negated := h.negated
  items := h.arr
  mapping hspan hentries := h.mapping hspan fun entry hentry =>
    hentries entry (Entries.mem_of_mem_ofList hentry)
  parameter {name type} hname htype := by
    have hfields : ∀ entry ∈ [(name, type)], named entry.1 ∧ P entry.2 :=
      List.forall_mem_singleton.mpr ⟨hname, htype⟩
    exact h.ofList hfields
  literal {span raw value pattern} hN := by
    cases value with
    | str text => exact h.fields (h.place hN) (.single (by decide) (h.str text))
    | _ => exact h.literal hN
  identifier := h.str
  one := h.one
  always := h.bool true
  string text hspan := h.fields hspan (.single (by decide) (h.str text))
  part hspan hroot _ hpath :=
    h.fields hspan (.cons (by decide) hroot (.single (by decide) (h.arr hpath)))
  partTo {span root _ path} hspan hroot _ hpath hvalue := by
    have hpart : P (.obj (attributeEntries span root path)) :=
      h.fields hspan (.cons (by decide) hroot (.single (by decide) (h.arr hpath)))
    exact h.insert hpart (by decide) hvalue
  application hspan hname harguments :=
    h.mapping hspan (List.forall_mem_singleton.mpr ⟨hname, h.arr harguments⟩)
  conditional hspan htest hfirst hsecond := h.fields hspan
    (.cons (by decide) htest (.cons (by decide) hfirst (.single (by decide) hsecond)))
  slot store name hspan := h.fields hspan (.single store.slot_ne_markerKey (h.str name))
  slotPart store name hspan hpath := h.fields hspan
    (.cons store.slot_ne_markerKey (h.str name) (.single (by decide) (h.arr hpath)))
  slotTo store name hspan hpath hvalue := h.fields hspan
    (.cons store.slot_ne_markerKey (h.str name) (.cons (by decide) (h.arr hpath)
      (.single (by decide) hvalue)))
  poolInit name hspan hpath hvalue hinitial := h.fields hspan
    (.cons (Store.slot_ne_markerKey _) (h.str name) (.cons (by decide) (h.arr hpath)
      (.cons (by decide) hvalue (.single (by decide) hinitial))))
  doc text hspan := h.fields hspan (.single (by decide) (h.str text))
  newItems hspan hitems htype :=
    h.fields hspan (.cons (by decide) (h.arr hitems) (.single (by decide) htype))
  newEntries hspan hentries htype :=
    h.fields hspan (.cons (by decide) (h.ofList hentries) (.single (by decide) htype))
  binding hspan hbound := h.fields hspan (.single (by decide) (h.ofList hbound))
  assignment hspan hbound := h.fields hspan (.single (by decide) (h.ofList hbound))
  block hspan hbody := h.fields hspan (.single (by decide) (h.arr hbody))
  ofTerm := id
  ofFunction := id
  reference name hspan := h.fields hspan (.single (by decide) (h.str name))
  definition hspan hparams hret hbody := h.fields hspan
    (.cons (by decide) (h.arr hparams) (.cons (by decide) hret (.single (by decide) (h.arr hbody))))
  branch hspan htest hbody :=
    h.fields hspan (.cons (by decide) htest (.single (by decide) (h.arr hbody)))
  choice := h.conditionalTerm
  expression hterm _ := hterm
  whileLoop hspan htest hbody :=
    h.fields hspan (.cons (by decide) htest (.single (by decide) (h.arr hbody)))
  untilLoop {_ place test _} hspan hplace htest hbody := by
    have hstop : P (tagged place [("not", test)]) := h.fields hplace (.single (by decide) htest)
    exact h.fields hspan (.cons (by decide) (h.arr hbody) (.single (by decide) hstop))
  forLoop hspan hbound htest _ hchanges hbody := h.fields hspan
    (.cons (by decide) (h.ofList hbound) (.cons (by decide) htest
      (.cons (by decide) (h.ofList hchanges) (.single (by decide) (h.arr hbody)))))
  forEach name hspan hcollection hbody := h.fields hspan
    (.cons (by decide) (h.str name) (.cons (by decide) hcollection
      (.single (by decide) (h.arr hbody))))
  error text hspan := h.fields hspan (.single (by decide) (h.str text))

/-! ### Slots and fields -/

variable {own : Option Span}

theorem setting_accounts (store : Store) (name key : String) (value : Node) (own : Option Span) :
    Accounts N own value.walk P (Slot.setting store name key value) := by
  refine .of_walk ?_
  unfold Slot.setting
  split
  · exact .blameOwn
  · refine (constant_accounts h.closed _ value).check fun constant hconstant => ?_
    split
    · exact .blameOwn
    · exact .done hconstant

theorem declaration_accounts (store : Store) (name : String) (node : Node) (own : Option Span) :
    Accounts N own node.walk P (Slot.declaration store name node) := by
  cases node with
  | object span properties =>
      rw [walk, Slot.declaration]
      refine .cons rfl fun hN =>
        (entriesWith_accounts h.closed (h.setting_accounts store name) _ _).check fun _ hgiven => ?_
      dsimp only
      split
      · exact .blameOwn
      · exact .done (h.closed.mapping (h.place hN) hgiven)
  | _ =>
      simp only [Slot.declaration]
      exact .blame (mem_walk_self _)

theorem slots_accounts (store : Store) (node : Node) :
    Accounts N own node.walk P (node.slots store) := by
  cases node with
  | object span properties =>
      rw [walk, slots]
      exact .cons rfl fun hN =>
        (entriesWith_accounts h.closed (h.declaration_accounts store) _ _).map fun _ =>
          h.closed.mapping (h.place hN)
  | _ =>
      simp only [slots]
      exact .blame (mem_walk_self _)

omit h in
theorem plainFunction_error {field : Field} {node : Node} {fault : Fault}
    (hplain : Document.plainFunction field node = .error fault) : fault.span = node.span := by
  unfold Document.plainFunction at hplain
  split at hplain <;> try split at hplain
  all_goals
    cases hplain
    try rfl

omit h in
/-- The parameters of an action are names without default values. -/
theorem actionParameters_accounts (seen : List String) (params : List (Param Node)) :
    Accounts N own (walkTargets params ++ walkDefaults params) (fun _ => True)
      (Document.actionParameters seen params) := by
  induction params generalizing seen with
  | nil => exact .done trivial
  | cons param rest ih =>
      obtain ⟨target, initial⟩ := param
      have htarget : target ∈ walkTargets (⟨target, initial⟩ :: rest) ++
          walkDefaults (⟨target, initial⟩ :: rest) :=
        List.mem_append_left _ (target_mem_walkTargets target initial rest)
      cases target with
      | identifier span name =>
          rw [Document.actionParameters]
          split
          next hname =>
            obtain rfl : initial = none := Option.isNone_iff_eq_none.mp hname.2.2
            refine Accounts.of_mem_iff
              (.known_append (identifier_known span name) fun _ => ih (name :: seen)) fun node => ?_
            simp only [walkTargets, walkDefaults, walkOption, List.mem_append, List.not_mem_nil]
            tauto
          · exact .blame htarget
      | _ =>
          simp only [Document.actionParameters]
          exact .blame htarget

omit h in
/-- What is made of a field's function accounts for it if it accounts for the parameters and the
statements. -/
theorem plainFunction_accounts {field : Field} {node : Node}
    {make : List (Param Node) × List Node → Except Fault Json}
    (hmake : ∀ params body, Accounts N node.span (walkTargets params ++ walkDefaults params ++
      walkAll body) P (make (params, body))) :
    Accounts N own node.walk P (Document.plainFunction field node >>= make) := by
  refine .of_walk ?_
  cases hplain : Document.plainFunction field node with
  | error fault => exact fun _ => .inl (plainFunction_error hplain)
  | ok parts =>
      obtain ⟨params, body⟩ := parts
      obtain ⟨span, inner, flags, rfl⟩ := Document.plainFunction_ok hplain
      have hknown : Known [.function span params (.block inner body) none none flags,
          .block inner body] := (known_nil.cons rfl).cons rfl
      refine Accounts.of_mem_iff (.known_append hknown fun _ => hmake params body) fun node => ?_
      simp only [walk, walkOption, List.mem_cons, List.mem_append, List.not_mem_nil]
      tauto

theorem statements_accounts (nodes : List Node) :
    Accounts N own (walkAll nodes) P (do return .arr (← Node.statements nodes)) :=
  ((account_closed h.closed).of_statements nodes own).map fun _ => h.arr

theorem value_begin_accounts {field : Field} (hfield : field = .begin ∨ field = .end)
    (node : Node) : Accounts N own node.walk P (Document.value field node) := by
  rw [Document.value_begin_eq hfield]
  refine plainFunction_accounts fun params body => ?_
  cases params with
  | nil => exact h.statements_accounts body
  | cons param rest => exact .blameOwn

theorem value_action_accounts (node : Node) :
    Accounts N own node.walk P (Document.value .action node) := by
  rw [Document.value]
  refine plainFunction_accounts fun params body => ?_
  refine (actionParameters_accounts [] params).bind fun names _ => ?_
  split
  · exact .blameOwn
  · exact h.statements_accounts body

theorem value_accounts (field : Field) (node : Node) :
    Accounts N own node.walk P (Document.value field node) := by
  refine .of_walk ?_
  cases field with
  | name | doc =>
      simp only [Document.value]
      cases htext : node.text? with
      | none => exact .blameOwn
      | some text => exact .ok (text?_known htext) fun _ => h.str text
  | method =>
      cases hvalue : Document.value .method node with
      | ok v =>
          obtain ⟨name, rfl, htext | ⟨span, rfl⟩⟩ := Document.value_method_ok hvalue
          · exact .ok (text?_known htext) fun _ => h.str name
          · exact .ok (identifier_known span name) fun _ => h.str name
      | error fault =>
          simp only [Document.value] at hvalue
          split at hvalue <;> cases hvalue
          exact .blameOwn
  | input | output | zero | metadata => exact constant_accounts h.closed _ node
  | begin => exact h.value_begin_accounts (.inl rfl) node
  | «end» => exact h.value_begin_accounts (.inr rfl) node
  | action => exact h.value_action_accounts node
  | fcns =>
      cases node with
      | object span properties =>
          rw [walk, Document.value]
          exact .cons rfl fun hN => (entriesWith_accounts h.closed
            (fun _ => (account_closed h.closed).of_definition) _ _).map fun _ =>
              h.closed.mapping (h.place hN)
      | _ =>
          simp only [Document.value]
          exact .blameOwn
  | cells | pools => exact h.slots_accounts _ node
  | randseed =>
      simp only [Document.value]
      cases hn : Document.constantInteger? node with
      | none => exact .blameOwn
      | some n =>
          obtain ⟨number, hnumber, hwhole⟩ := Document.constantInteger?_some hn
          have hint (hP : P number) : P (.int n) := by
            rcases hwhole with rfl | ⟨x, rfl, hx⟩
            · exact hP
            · exact h.whole hP hx
          rcases Document.constantNumber?_some hnumber with ⟨span, raw, pattern, rfl⟩ |
            ⟨span, operator, argument, leading, rfl, hnegated⟩
          · exact .ok (literal_known span raw number pattern) fun hN =>
              hint (h.literal (hN _ (mem_walk_self _)))
          · exact .ok (negatedLiteral?_known hnegated) fun hN =>
              hint (value_negatedLiteral h.closed hnegated hN)
  | options =>
      cases node with
      | object span properties =>
          rw [walk, Document.value]
          exact .cons rfl fun hN => (constantEntries_accounts h.closed _ properties).map fun _ =>
            h.closed.mapping (h.place hN)
      | _ =>
          simp only [Document.value]
          exact .blameOwn

/-! ### Entries and documents -/

theorem entry_accounts (document : Entries String Json) (statement : Node) :
    Accounts N own statement.walk (fun entry => named entry.1 ∧ P entry.2)
      (Document.entry document statement) := by
  refine .of_walk ?_
  unfold Document.entry
  cases hassigned : Document.assignment? statement with
  | none => exact .blameOwn
  | some assigned =>
      obtain ⟨key, node⟩ := assigned
      obtain ⟨span, place, target, rfl⟩ := Document.assignment?_some hassigned
      dsimp only
      cases hfield : Field.ofKey? key with
      | none => exact .blameOwn
      | some field =>
          dsimp only
          split
          · exact .blameOwn
          · rw [walk, walk]
            refine .cons rfl fun _ => .cons rfl fun _ => .known_append (identifier_known target key)
              fun _ => (h.value_accounts field node).map fun _ hvalue => ⟨?_, hvalue⟩
            exact h.fixedName (Document.ne_markerKey_of_ofKey? hfield)

/-- The fields of a document have the property. -/
theorem of_compile {program : Program} {document : Entries String Json}
    (hN : ∀ node ∈ walkAll program.body, N node) (hdocument : program.compile = .ok document) :
    ∀ entry ∈ document, named entry.1 ∧ P entry.2 := by
  refine Document.gathered_induction (P := fun d => ∀ entry ∈ d, named entry.1 ∧ P entry.2)
    (Program.compile_eq_ok_iff.mp hdocument).1 (by simp) ?_
  intro d key v statement hstatement hd hentry
  have hbelow : ∀ below ∈ statement.walk, N below := by
    intro below hbelow
    refine hN below ?_
    rw [walkAll_eq]
    exact List.mem_flatMap.mpr ⟨statement, hstatement, hbelow⟩
  have hadded := (h.entry_accounts d statement : Accounts N none _ _ _).of_ok hbelow hentry
  exact List.forall_mem_append.mpr ⟨hd, List.forall_mem_singleton.mpr hadded.2⟩

end Uniform

/-- Nothing need be known of the nodes for an entry to account for them. -/
theorem entry_accounts (document : Entries String Json) (statement : Node) :
    Accounts (fun _ => True) statement.span statement.walk (fun _ => True)
      (Document.entry document statement) :=
  have h : Uniform (fun _ => True) (fun _ => True) (fun _ => True) fun _ => True := by
    constructor <;> intros <;> trivial
  (h.entry_accounts document statement).imp fun _ _ => trivial

end Results

end PfaScript
