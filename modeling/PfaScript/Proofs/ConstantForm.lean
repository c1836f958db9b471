import Mathlib
import PfaScript.Proofs.Keyed
import PfaScript.Proofs.Placeless

/-!
# Constants are read back

Values without doubles can be written as constants of a script: as literals, with a minus sign
before negative numbers, as array literals, and as object literals whose keys are texts or names.
`ConstantForm` says which syntax trees write a given value in this way; their nodes may have any
places, and entries that nobody reads.

**Theorem** (`Node.constants_read_back`): a tree that writes a value is read and compiled to that
value, up to markers, unless the key of markers is one of the value's keys, and then it is refused
for that key. The one thing that can go wrong besides is a place with an infinite line or column.

Reading and compiling both go through a tree piece by piece. What the pieces give is put together by
two rules: `Load.Reads.bind` for a reading that goes well unless a place is infinite, and
`Answers.bind` for a computation that fails exactly if a marker's key is met.
-/

namespace PfaScript

/-! ### Values as syntax trees -/

/-- The values that can stand in a literal. -/
inductive Json.IsLiteral : Json → Prop
  | null : IsLiteral .null
  | bool (b : Bool) : IsLiteral (.bool b)
  | str (s : String) : IsLiteral (.str s)
  | nat (n : Nat) : IsLiteral (.int n)

/-- The fields of a literal with this value. -/
structure LiteralForm (v : Json) (fields : Entries String Json) : Prop where
  type : fields.get? "type" = some (.str "Literal")
  value : fields.get? "value" = some v
  regex : fields.get? "regex" = none

/-- The tree of an entry's key: a text or a name. -/
inductive KeyForm (key : String) : Json → Prop
  | text {fields : Entries String Json} (h : LiteralForm (.str key) fields) :
    KeyForm key (.obj fields)
  | name {fields : Entries String Json} (htype : fields.get? "type" = some (.str "Identifier"))
    (hname : fields.get? "name" = some (.str key)) : KeyForm key (.obj fields)

/-- The fields of an object literal's entry, given the trees of its key and of its value. -/
structure EntryForm (key value : Json) (fields : Entries String Json) : Prop where
  type : fields.get? "type" = some (.str "Property")
  key : fields.get? "key" = some key
  value : fields.get? "value" = some value
  kind : fields.get? "kind" = some (.str "init")
  method : Load.flagField fields "method" = false
  computed : Load.flagField fields "computed" = false

mutual

/-- The second value is a syntax tree that writes the first one as a constant. -/
inductive ConstantForm : Json → Json → Prop
  | literal {v : Json} {fields : Entries String Json} (hv : v.IsLiteral)
    (h : LiteralForm v fields) :
    ConstantForm v (.obj fields)
  | negative {n : Nat} {fields argument : Entries String Json}
    (htype : fields.get? "type" = some (.str "UnaryExpression"))
    (hoperator : fields.get? "operator" = some (.str "-"))
    (hargument : fields.get? "argument" = some (.obj argument))
    (h : LiteralForm (.int n) argument) : ConstantForm (.int (-n)) (.obj fields)
  | array {items forms : List Json} {fields : Entries String Json}
    (htype : fields.get? "type" = some (.str "ArrayExpression"))
    (helements : fields.get? "elements" = some (.arr forms)) (h : ItemForms items forms) :
    ConstantForm (.arr items) (.obj fields)
  | object {entries : Entries String Json} {forms : List Json} {fields : Entries String Json}
    (htype : fields.get? "type" = some (.str "ObjectExpression"))
    (hproperties : fields.get? "properties" = some (.arr forms)) (h : EntryForms entries forms) :
    ConstantForm (.obj entries) (.obj fields)

/-- The trees that write the items of a list. -/
inductive ItemForms : List Json → List Json → Prop
  | nil : ItemForms [] []
  | cons {v form : Json} {items forms : List Json} (h : ConstantForm v form)
    (hrest : ItemForms items forms) : ItemForms (v :: items) (form :: forms)

/-- The trees that write the entries of a mapping. -/
inductive EntryForms : Entries String Json → List Json → Prop
  | nil : EntryForms [] []
  | cons {key : String} {v keyTree valueTree : Json} {entries fields : Entries String Json}
    {forms : List Json} (hentry : EntryForm keyTree valueTree fields) (hkey : KeyForm key keyTree)
    (h : ConstantForm v valueTree) (hrest : EntryForms entries forms) :
    EntryForms ((key, v) :: entries) (.obj fields :: forms)

end

/-! ### Every value without doubles can be written -/

/-- No double occurs in the value. -/
inductive Json.Doubleless : Json → Prop
  | null : Doubleless .null
  | bool (b : Bool) : Doubleless (.bool b)
  | int (n : Int) : Doubleless (.int n)
  | str (s : String) : Doubleless (.str s)
  | arr {items : List Json} (h : ∀ item ∈ items, Doubleless item) : Doubleless (.arr items)
  | obj {fields : Entries String Json} (h : ∀ entry ∈ fields, Doubleless entry.2) :
    Doubleless (.obj fields)

/-- The shortest tree of a literal. -/
def literalTree (v : Json) : Entries String Json :=
  [("type", .str "Literal"), ("value", v)]

/-- The shortest tree of a number with a minus sign. -/
def negativeTree (n : Nat) : Json :=
  .obj [("type", .str "UnaryExpression"), ("operator", .str "-"),
    ("argument", .obj (literalTree (.int n)))]

/-- The shortest tree of an entry whose key is a text. -/
def entryTree (key : String) (value : Json) : Entries String Json :=
  [("type", .str "Property"), ("key", .obj (literalTree (.str key))), ("value", value),
    ("kind", .str "init")]

theorem literalForm_literalTree (v : Json) : LiteralForm v (literalTree v) := ⟨rfl, rfl, rfl⟩

theorem constantForm_negativeTree (n : Nat) : ConstantForm (.int (-n)) (negativeTree n) :=
  .negative rfl rfl rfl (literalForm_literalTree _)

theorem entryForm_entryTree (key : String) (value : Json) :
    EntryForm (.obj (literalTree (.str key))) value (entryTree key value) :=
  ⟨rfl, rfl, rfl, rfl, rfl, rfl⟩

theorem ItemForms.exists_of_forall {items : List Json}
    (h : ∀ item ∈ items, ∃ form, ConstantForm item form) : ∃ forms, ItemForms items forms := by
  induction items with
  | nil => exact ⟨[], .nil⟩
  | cons item rest ih =>
      rw [List.forall_mem_cons] at h
      obtain ⟨form, hform⟩ := h.1
      obtain ⟨forms, hforms⟩ := ih h.2
      exact ⟨form :: forms, .cons hform hforms⟩

theorem EntryForms.exists_of_forall {entries : Entries String Json}
    (h : ∀ entry ∈ entries, ∃ form, ConstantForm entry.2 form) :
    ∃ forms, EntryForms entries forms := by
  induction entries with
  | nil => exact ⟨[], .nil⟩
  | cons entry rest ih =>
      obtain ⟨key, v⟩ := entry
      rw [List.forall_mem_cons] at h
      obtain ⟨form, hform⟩ := h.1
      obtain ⟨forms, hforms⟩ := ih h.2
      have hkey : KeyForm key (.obj (literalTree (.str key))) := .text (literalForm_literalTree _)
      exact ⟨.obj (entryTree key form) :: forms,
        .cons (entryForm_entryTree key form) hkey hform hforms⟩

theorem Json.Doubleless.exists_form {v : Json} (h : v.Doubleless) :
    ∃ form, ConstantForm v form := by
  induction h with
  | null => exact ⟨_, .literal .null (literalForm_literalTree _)⟩
  | bool b => exact ⟨_, .literal (.bool b) (literalForm_literalTree _)⟩
  | str s => exact ⟨_, .literal (.str s) (literalForm_literalTree _)⟩
  | int n =>
      obtain ⟨k, rfl | rfl⟩ := n.eq_nat_or_neg
      · exact ⟨_, .literal (.nat k) (literalForm_literalTree _)⟩
      · exact ⟨negativeTree k, constantForm_negativeTree k⟩
  | arr _ ih =>
      obtain ⟨forms, hforms⟩ := ItemForms.exists_of_forall ih
      exact ⟨.obj [("type", .str "ArrayExpression"), ("elements", .arr forms)],
        .array rfl rfl hforms⟩
  | obj _ ih =>
      obtain ⟨forms, hforms⟩ := EntryForms.exists_of_forall ih
      exact ⟨.obj [("type", .str "ObjectExpression"), ("properties", .arr forms)],
        .object rfl rfl hforms⟩

/-! ### Readings that stop at infinite places only -/

namespace Load

variable {α β : Type} {good : α → Prop} {good' : β → Prop}

/-- The reading gives a good result, unless it stops at an infinite place. -/
inductive Reads (good : α → Prop) : Except LoadError α → Prop
  | stops : Reads good (.error .infinitePosition)
  | ok {a : α} (h : good a) : Reads good (.ok a)

theorem Reads.bind {x : Except LoadError α} {f : α → Except LoadError β} (h : Reads good x)
    (hf : ∀ a, good a → Reads good' (f a)) : Reads good' (x >>= f) := by
  cases h with
  | stops => exact .stops
  | ok ha => exact hf _ ha

theorem Reads.mono {good' : α → Prop} {x : Except LoadError α} (h : Reads good x)
    (hgood : ∀ a, good a → good' a) : Reads good' x := by
  cases h with
  | stops => exact .stops
  | ok ha => exact .ok (hgood _ ha)

theorem spanField_reads (fields : Entries String Json) :
    Reads (fun _ => True) (spanField fields) := by
  unfold spanField
  split
  · exact .ok trivial
  · exact .ok trivial
  · exact .stops

/-- A node is read well if what it is made of is, whatever its place. -/
theorem node_reads {good : Node → Prop} {fields : Entries String Json} {tag : String}
    {c : Construct} (htag : fields.get? "type" = some (.str tag))
    (hc : Construct.ofTag? tag = some c)
    (h : Reads (fun make => ∀ span, good (make span)) (build tag fields c)) :
    Reads good (node (.obj fields)) := by
  rw [node_known htag hc]
  refine h.bind fun make hmake => ?_
  exact (spanField_reads fields).bind fun span _ => .ok (hmake span)

theorem nodes_cons_reads {good : Node → Prop} {good' : List (Option Node) → Prop} {form : Json}
    {forms : List Json} {together : List (Option Node) → Prop} (hform : form.isNull = false)
    (hfirst : Reads good (node form)) (hrest : Reads good' (nodes forms))
    (htogether : ∀ n rest, good n → good' rest → together (some n :: rest)) :
    Reads together (nodes (form :: forms)) := by
  rw [nodes, hform, if_neg Bool.false_ne_true]
  refine hfirst.bind fun n hn => hrest.bind fun rest hrest => .ok ?_
  exact htogether n rest hn hrest

end Load

/-! ### Computations that fail at the key of markers only -/

/-- The computation fails for the key of markers if there is one, and gives a good result
otherwise. -/
structure Answers {α : Type} (marked : Bool) (good : α → Prop) (result : Except Fault α) :
    Prop where
  ok : marked = false → ∃ a, result = .ok a ∧ good a
  error : marked = true → ∃ fault, result = .error fault ∧ fault.cause = .reservedKey

namespace Answers

variable {α β : Type} {marked marked' : Bool} {good : α → Prop} {good' : β → Prop}

theorem pure {a : α} (h : good a) : Answers false good (.ok a) where
  ok _ := ⟨a, rfl, h⟩
  error hmarked := absurd hmarked Bool.false_ne_true

/-- A sequence of two computations fails at the first key of markers. -/
theorem bind {x : Except Fault α} {f : α → Except Fault β} (h : Answers marked good x)
    (hf : ∀ a, good a → Answers marked' good' (f a)) :
    Answers (marked || marked') good' (x >>= f) where
  ok hmarked := by
    rw [Bool.or_eq_false_iff] at hmarked
    obtain ⟨a, rfl, ha⟩ := h.ok hmarked.1
    exact (hf a ha).ok hmarked.2
  error hmarked := by
    cases hfirst : marked with
    | true =>
        obtain ⟨fault, rfl, hcause⟩ := h.error hfirst
        exact ⟨fault, rfl, hcause⟩
    | false =>
        obtain ⟨a, rfl, ha⟩ := h.ok hfirst
        rw [hfirst, Bool.false_or] at hmarked
        exact (hf a ha).error hmarked

/-- The last step of a sequence only puts results together. -/
theorem map {x : Except Fault α} {f : α → β} (h : Answers marked good x)
    (hf : ∀ a, good a → good' (f a)) : Answers marked good' (x >>= fun a => .ok (f a)) := by
  have hbind := h.bind fun a ha => pure (hf a ha)
  rwa [Bool.or_false] at hbind

end Answers

/-! ### Nodes that stand for values -/

variable {v form : Json} {key : String} {items : List Json} {entries fields : Entries String Json}

namespace Node

/-- The node is a constant with this value. -/
def StandsFor (v : Json) (node : Node) : Prop :=
  Answers v.hasMarkers (fun w => v.Keyed → w.strip = v) node.constant

/-- The elements of an array are constants with these values. -/
def StandForItems (items : List Json) (elements : List (Option Node)) : Prop :=
  ∀ span, Answers (Json.itemsHaveMarkers items)
    (fun ws => (∀ item ∈ items, item.Keyed) → ws.map Json.strip = items) (constants span elements)

/-- The entries of an object literal have these keys, and constants with these values. -/
def StandForEntries (entries : Entries String Json) (properties : List Node) : Prop :=
  Answers (Json.fieldsHaveMarkers entries)
    (fun ws => (∀ entry ∈ entries, entry.2.Keyed) → Json.stripFields ws = entries)
    (constantEntries properties)

/-- The node is a key with this name. -/
def StandsForKey (key : String) (node : Node) : Prop :=
  ∀ span, Answers (decide (key = markerKey)) (fun name => name = key ∧ key ≠ markerKey)
    (propertyKey span node "init" false)

theorem standsFor_literal (hv : v.IsLiteral) (span : Option Span) (raw : Option Json) :
    StandsFor v (.literal span raw v .null) := by
  have hmarked : v.hasMarkers = false := by cases hv <;> rfl
  have hstrip : v.strip = v := by cases hv <;> rw [Json.strip]
  unfold StandsFor
  rw [hmarked, constant]
  exact .pure fun _ => hstrip

theorem standsFor_negative (n : Nat) (span place : Option Span) (raw : Option Json)
    (leading : Bool) :
    StandsFor (.int (-n)) (.unary span "-" (.literal place raw (.int n) .null) leading) := by
  unfold StandsFor
  rw [constant]
  exact .pure fun _ => by rw [Json.strip]

theorem StandForItems.standsFor {elements : List (Option Node)} (h : StandForItems items elements)
    (span : Option Span) : StandsFor (.arr items) (.array span elements) := by
  unfold StandsFor
  rw [Json.hasMarkers, constant]
  refine (h span).map fun ws hws hkeyed => ?_
  rw [Json.strip, Json.stripItems_eq_map, hws hkeyed.items]

theorem StandForEntries.standsFor {properties : List Node} (h : StandForEntries entries properties)
    (span : Option Span) : StandsFor (.obj entries) (.object span properties) := by
  unfold StandsFor
  rw [Json.hasMarkers, constant]
  refine Answers.map h fun ws hws hkeyed => ?_
  have hentries := hws hkeyed.fields
  rw [tagged, Json.strip, Json.stripFields_taggedEntries, Json.stripFields_ofList, hentries,
    Entries.ofList_eq_self hkeyed.nodup, Entries.ofList_eq_self hkeyed.nodup]

theorem standForItems_nil : StandForItems [] [] := by
  intro span
  rw [Json.itemsHaveMarkers, constants]
  exact .pure fun _ => rfl

theorem StandForItems.cons {node : Node} {elements : List (Option Node)} (hnode : StandsFor v node)
    (hrest : StandForItems items elements) :
    StandForItems (v :: items) (some node :: elements) := by
  intro span
  rw [Json.itemsHaveMarkers, constants]
  refine Answers.bind hnode fun w hw => (hrest span).map fun ws hws hkeyed => ?_
  rw [List.forall_mem_cons] at hkeyed
  rw [List.map_cons, hw hkeyed.1, hws hkeyed.2]

theorem standForEntries_nil : StandForEntries [] [] := by
  unfold StandForEntries
  rw [Json.fieldsHaveMarkers, constantEntries]
  exact .pure fun _ => Json.stripFields_nil

theorem StandForEntries.cons {keyNode valueNode : Node} {properties : List Node}
    (hkey : StandsForKey key keyNode) (hvalue : StandsFor v valueNode)
    (hrest : StandForEntries entries properties) (span : Option Span) :
    StandForEntries ((key, v) :: entries)
      (.property span keyNode valueNode "init" false :: properties) := by
  unfold StandForEntries
  rw [Json.fieldsHaveMarkers, constantEntries, Bool.or_assoc]
  refine (hkey span).bind fun name hname => ?_
  obtain ⟨rfl, hne⟩ := hname
  refine Answers.bind hvalue fun w hw => Answers.map hrest fun ws hws hkeyed => ?_
  rw [List.forall_mem_cons] at hkeyed
  rw [Json.stripFields_cons, if_neg hne, hw hkeyed.1, hws hkeyed.2]

/-- A key may be any but the one of markers. -/
theorem standsForKey_of_eq {node : Node} (h : ∀ span, propertyKey span node "init" false =
      if key = markerKey then .error ⟨.reservedKey, span⟩ else .ok key) :
    StandsForKey key node := by
  intro span
  rw [h span]
  constructor
  · intro hkey
    have hne := of_decide_eq_false hkey
    exact ⟨key, if_neg hne, rfl, hne⟩
  · intro hkey
    exact ⟨_, if_pos (of_decide_eq_true hkey), rfl⟩

end Node

/-! ### Trees that write values -/

open Load (Reads)

theorem LiteralForm.reads (h : LiteralForm v fields) :
    Reads (fun node => ∃ span raw, node = .literal span raw v .null) (Load.node (.obj fields)) := by
  refine Load.node_reads h.type rfl ?_
  have hpattern : Load.patternField fields = .null := by rw [Load.patternField, h.regex]
  rw [Load.build, h.value, hpattern]
  exact .ok fun span => ⟨span, _, rfl⟩

theorem KeyForm.reads (h : KeyForm key form) : Reads (Node.StandsForKey key) (Load.node form) := by
  cases h with
  | text h =>
      refine h.reads.mono ?_
      rintro _ ⟨span, raw, rfl⟩
      exact Node.standsForKey_of_eq fun _ => rfl
  | name htype hname =>
      refine Load.node_reads htype rfl ?_
      rw [Load.build, Load.nameField, hname]
      exact .ok fun span => Node.standsForKey_of_eq fun _ => rfl

theorem KeyForm.isNull_eq (h : KeyForm key form) : form.isNull = false := by
  cases h <;> rfl

theorem ConstantForm.isNull_eq (h : ConstantForm v form) : form.isNull = false := by
  cases h <;> rfl

/-- The entry of an object literal is read from the trees of its key and its value. -/
theorem EntryForm.reads {goodKey goodValue : Node → Prop} {key value : Json}
    (h : EntryForm key value fields) (hkey : key.isNull = false) (hvalue : value.isNull = false)
    (hkeyReads : Reads goodKey (Load.node key)) (hvalueReads : Reads goodValue (Load.node value)) :
    Reads (fun node => ∃ span k w, node = .property span k w "init" false ∧ goodKey k ∧ goodValue w)
      (Load.node (.obj fields)) := by
  have hkind : Load.kindField fields = "init" := by
    rw [Load.kindField, h.method, if_neg Bool.false_ne_true, Load.textField, h.kind]
    rfl
  refine Load.node_reads h.type rfl ?_
  rw [Load.build, h.key, h.value, Load.childOf, Load.childOf, hkey, hvalue, hkind, h.computed]
  refine hkeyReads.bind fun k hk => hvalueReads.bind fun w hw => ?_
  exact .ok fun span => ⟨span, k, w, rfl, hk, hw⟩

mutual

/-- A tree that writes a value is read as a constant with this value. -/
theorem ConstantForm.reads {v form : Json} :
    ConstantForm v form → Reads (Node.StandsFor v) (Load.node form)
  | .literal hv h => by
      refine h.reads.mono ?_
      rintro _ ⟨span, raw, rfl⟩
      exact Node.standsFor_literal hv span raw
  | .negative (n := n) htype hoperator hargument h => by
      refine Load.node_reads htype rfl ?_
      rw [Load.build, hargument, Load.childOf, Load.textField, hoperator]
      refine h.reads.bind ?_
      rintro _ ⟨place, raw, rfl⟩
      exact .ok fun span => Node.standsFor_negative n span place raw _
  | .array htype helements h => by
      refine Load.node_reads htype rfl ?_
      rw [Load.build, helements, Load.itemsOf]
      exact h.reads.bind fun elements hitems => .ok fun span => hitems.standsFor span
  | .object htype hproperties h => by
      refine Load.node_reads htype rfl ?_
      rw [Load.build, hproperties, Load.itemsOf]
      exact h.reads.bind fun elements hentries => .ok fun span => hentries.standsFor span

theorem ItemForms.reads {items forms : List Json} :
    ItemForms items forms → Reads (Node.StandForItems items) (Load.nodes forms)
  | .nil => by
      rw [Load.nodes]
      exact .ok Node.standForItems_nil
  | .cons h hrest =>
      Load.nodes_cons_reads h.isNull_eq h.reads hrest.reads fun _ _ hfirst hothers =>
        .cons hfirst hothers

theorem EntryForms.reads {entries : Entries String Json} {forms : List Json} :
    EntryForms entries forms →
      Reads (fun elements => Node.StandForEntries entries elements.reduceOption) (Load.nodes forms)
  | .nil => by
      rw [Load.nodes]
      exact .ok Node.standForEntries_nil
  | .cons hentry hkey h hrest => by
      have hfirst := hentry.reads hkey.isNull_eq h.isNull_eq hkey.reads h.reads
      refine Load.nodes_cons_reads rfl hfirst hrest.reads ?_
      rintro _ elements ⟨span, k, w, rfl, hk, hw⟩ hothers
      rw [List.reduceOption_cons_of_some]
      exact .cons hk hw hothers span

end

/-- **Constants are read back.** Every value without doubles is written by some syntax tree. A tree
that writes a value is read, unless the line or column of a place in it is infinite. What is read is
compiled to the value, with markers added, if the key of markers is not among the keys of the
value's mappings, at any depth. If it is, the tree is refused for its invalid key. -/
theorem Node.constants_read_back (v : Json) :
    (v.Doubleless → ∃ form, ConstantForm v form) ∧
      ∀ form, ConstantForm v form →
        (Node.load form = .error .infinitePosition ∧ form.placesFinite = false) ∨
          ∃ node, Node.load form = .ok node ∧
            (v.hasMarkers = false → ∃ w, node.constant = .ok w ∧ (v.Keyed → w.strip = v)) ∧
            (v.hasMarkers = true → ∃ fault, node.constant = .error fault ∧
              fault.cause.kind = .invalidObjectKey) := by
  refine ⟨Json.Doubleless.exists_form, fun form h => ?_⟩
  have hreads : Reads (Node.StandsFor v) (Node.load form) := h.reads
  cases hload : Node.load form with
  | error e =>
      rw [hload] at hreads
      cases hreads
      exact .inl ⟨rfl, Load.placesFinite_of_infinitePosition hload⟩
  | ok node =>
      rw [hload] at hreads
      cases hreads with
      | ok hstands =>
          refine .inr ⟨node, rfl, hstands.ok, fun hmarked => ?_⟩
          obtain ⟨fault, hfault, hcause⟩ := hstands.error hmarked
          exact ⟨fault, hfault, by rw [hcause]; rfl⟩

/-- A mapping with a list inside, `{"low": [-3]}`. -/
def lowest : Json := .obj [("low", .arr [.int (-3)])]

/-- The tree of `{low: [-3]}`, whose key is a name and whose object literal has the given place. -/
def lowestTree (place : Json) : Json :=
  .obj [("type", .str "ObjectExpression"), ("loc", place), ("properties", .arr [.obj
    [("type", .str "Property"), ("kind", .str "init"),
      ("key", .obj [("type", .str "Identifier"), ("name", .str "low")]),
      ("value", .obj [("type", .str "ArrayExpression"), ("elements", .arr [negativeTree 3])])]])]

theorem constantForm_lowestTree (place : Json) : ConstantForm lowest (lowestTree place) := by
  refine .object rfl rfl (.cons ⟨rfl, rfl, rfl, rfl, rfl, rfl⟩ (.name rfl rfl) ?_ .nil)
  exact .array rfl rfl (.cons (constantForm_negativeTree 3) .nil)

theorem keyed_lowest : lowest.Keyed := by
  refine .obj (by decide) (List.forall_mem_singleton.mpr (.arr ?_))
  exact List.forall_mem_singleton.mpr (.int (-3))

theorem Node.constants_read_back_lowest :
    ∃ node w, Node.load (lowestTree (Load.lineAt (.int 3))) = .ok node ∧
      node.constant = .ok w ∧ w.strip = lowest := by
  have hform := constantForm_lowestTree (Load.lineAt (.int 3))
  rcases (Node.constants_read_back lowest).2 _ hform with ⟨hinfinite, -⟩ | ⟨node, hload, hok, -⟩
  · cases hinfinite
  · obtain ⟨w, hw, hstrip⟩ := hok rfl
    exact ⟨node, w, hload, hw, hstrip keyed_lowest⟩

/-- An infinite line in the place of a constant is enough for it not to be read. -/
theorem infinite_place_loses_constant :
    ∃ form, ConstantForm lowest form ∧ lowest.hasMarkers = false ∧
      Node.load form = .error .infinitePosition :=
  ⟨lowestTree (Load.lineAt (.float (.infinite false))), constantForm_lowestTree _, rfl, rfl⟩

end PfaScript
