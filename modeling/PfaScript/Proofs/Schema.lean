import Mathlib
import PfaScript.Proofs.FieldInversion
import PfaScript.Proofs.Grammar

/-!
# The schema of documents

Which keys a document has and what may stand under each of them (`Document.Schema`). Every document
that is compiled satisfies the schema (`Program.compile_schema`).

The entries of an object literal are assigned one after the other, so a later entry with the same
key replaces an earlier one that was checked before. What is said of the entries of a mapping is
therefore proved of all entries that are written, and the pairing of written entries with compiled
ones is kept by assigning (`Entries.Paired.ofList`).
-/

namespace PfaScript

namespace Schema

/-! ### Shapes of values -/

/-- A mapping in which every entry but the marker has the given shape. -/
def Each (P : String → Json → Prop) (v : Json) : Prop :=
  ∃ fields : Entries String Json, v = .obj fields ∧ fields.keys.Nodup ∧
    ∀ name w, (name, w) ∈ fields → name ≠ markerKey → P name w

/-- The settings of a slot of a store, and its marker. -/
structure SlotFields (store : Store) (fields : Entries String Json) : Prop where
  nodup : fields.keys.Nodup
  known : ∀ key ∈ fields.keys, key ∈ [markerKey, "type", "init", "shared", "rollback"]
  type : "type" ∈ fields.keys
  /-- A cell must be initialized; a pool may start empty. -/
  init : store = .cells → "init" ∈ fields.keys
  flag : ∀ key v, (key, v) ∈ fields → key = "shared" ∨ key = "rollback" → ∃ b, v = .bool b

/-- The declaration of a slot. -/
def IsSlot (store : Store) (v : Json) : Prop := ∃ fields, v = .obj fields ∧ SlotFields store fields

/-- The entry for a parameter: its name with its type. -/
def IsParameter (param : Param Node) (v : Json) : Prop :=
  ∃ span name type, param.target = .identifier span name ∧ v = .obj [(name, type)]

/-- The definition of a function that is written as `node`, with an entry for each of its
parameters, in order. -/
def IsFunction (node : Node) (v : Json) : Prop :=
  ∃ span place params body id rest flags type,
    node = .binary span ">>" (.function place params body id rest flags) type ∧
    ∃ items ret statements, List.Forall₂ IsParameter params items ∧
      Grammar.Mapping (fun _ => True)
        [("params", .arr items), ("ret", ret), ("do", .arr statements)] v

/-- The value of a field that is given as `node`. -/
def Admits (node : Node) : Field → Json → Prop
  | .name, v | .doc, v | .method, v => ∃ text, v = .str text
  | .begin, v | .end, v | .action, v => ∃ items, v = .arr items
  | .randseed, v => ∃ n, v = .int n
  | .options, v => Each (fun _ _ => True) v
  | .fcns, v => ∃ span properties written,
      node = .object span properties ∧ objectEntries properties = .ok written ∧
      Each (fun name w => ∃ function, (Entries.ofList written).get? name = some function ∧
        IsFunction function w) v
  | .cells, v => Each (fun _ => IsSlot .cells) v
  | .pools, v => Each (fun _ => IsSlot .pools) v
  | .input, _ | .output, _ | .zero, _ | .metadata, _ => True

end Schema

/-- What every statement of a script keeps: the fields are distinct and known, and their values have
the shapes that they demand. -/
structure Document.Conforms (program : Program) (document : Entries String Json) : Prop where
  nodup : document.keys.Nodup
  known : ∀ key ∈ document.keys, key ∈ Field.all.map Field.key
  /-- The value of a field has the shape that the field demands of what the script assigns. -/
  value : ∀ field v, (field.key, v) ∈ document →
    ∃ statement ∈ program.body, ∃ node, assignment? statement = some (field.key, node) ∧
      Schema.Admits node field v

/-- What holds of a whole document. -/
structure Document.Schema (program : Program) (document : Entries String Json) : Prop
    extends Conforms program document where
  required : ∀ key ∈ ["input", "output", "action"], key ∈ document.keys

example : Field.all.map Field.key =
    ["name", "doc", "method", "input", "output", "zero", "metadata", "begin", "end", "action",
      "fcns", "cells", "pools", "randseed", "options"] := rfl

/-! ### Entries of object literals -/

/-- What is made of an object literal is made of its entries, one by one. -/
theorem paired_of_entriesWith {make : String → Node → Except Fault Json} {properties : List Node}
    {entries : List (String × Json)} (h : entriesWith make properties = .ok entries) :
    ∃ written, objectEntries properties = .ok written ∧
      Entries.Paired (fun name node v => make name node = .ok v) written entries := by
  induction properties generalizing entries with
  | nil =>
      simp only [entriesWith, Except.ok.injEq] at h
      subst h
      exact ⟨[], rfl, .nil⟩
  | cons node rest ih =>
      obtain ⟨span, key, value, kind, computed, name, first, others, rfl, hname, hfirst, hothers,
        rfl⟩ := entriesWith_cons_ok h
      obtain ⟨written, hwritten, hpaired⟩ := ih hothers
      refine ⟨(name, value) :: written, ?_, .cons ⟨rfl, hfirst⟩ hpaired⟩
      rw [objectEntries, hname, hwritten]
      rfl

namespace Schema

/-- The entries of a tagged mapping are those that it is made of, and its marker. -/
theorem each_tagged {P : String → Json → Prop} {entries : List (String × Json)}
    (h : ∀ name v, (name, v) ∈ Entries.ofList entries → P name v) (span : Option Span) :
    Each P (tagged span (Entries.ofList entries)) := by
  refine ⟨_, rfl, ?_, fun name v hmem hname => ?_⟩
  · exact Entries.nodup_keys_update (by cases span <;> simp [marker]) _
  · rcases Entries.mem_of_mem_update hmem with hmarker | hmem
    · cases span with
      | none => cases hmarker
      | some place =>
          rw [marker, List.mem_singleton] at hmarker
          cases hmarker
          exact absurd rfl hname
    · exact h name v hmem

/-- Every entry of a mapping made of an object literal is made of the last entry that is written
with its key. -/
theorem each_of_entriesWith {make : String → Node → Except Fault Json} {properties : List Node}
    {entries : List (String × Json)} (h : entriesWith make properties = .ok entries)
    (span : Option Span) :
    ∃ written, objectEntries properties = .ok written ∧
      Each (fun name v => ∃ node, (Entries.ofList written).get? name = some node ∧
        make name node = .ok v) (tagged span (Entries.ofList entries)) := by
  obtain ⟨written, hwritten, hpaired⟩ := paired_of_entriesWith h
  refine ⟨written, hwritten, each_tagged (fun name v hmem => ?_) span⟩
  obtain ⟨node, hnode, hmake⟩ := hpaired.ofList.exists_of_mem_right hmem
  exact ⟨node, Entries.get?_of_mem (Entries.nodup_keys_ofList written) hnode, hmake⟩

theorem Each.mono {P Q : String → Json → Prop} {v : Json} (h : Each P v)
    (himp : ∀ name w, P name w → Q name w) : Each Q v := by
  obtain ⟨fields, rfl, hnodup, hfields⟩ := h
  exact ⟨fields, rfl, hnodup, fun name w hmem hname => himp name w (hfields name w hmem hname)⟩

/-! ### Slots and functions -/

theorem isFlag_iff {v : Json} : Slot.isFlag v = true ↔ ∃ b, v = .bool b := by
  cases v <;> simp [Slot.isFlag]

theorem slot_of_declaration {store : Store} {name : String} {node : Node} {v : Json}
    (h : Slot.declaration store name node = .ok v) : IsSlot store v := by
  obtain ⟨span, properties, given, rfl, hgiven, hrequired, rfl⟩ := Slot.declaration_ok h
  obtain ⟨written, -, hpaired⟩ := paired_of_entriesWith hgiven
  have hsetting : ∀ key v, (key, v) ∈ Entries.ofList given →
      key ∈ Slot.keys ∧
        (key ∈ Slot.flags → Slot.isFlag v = true) := by
    intro key v hmem
    obtain ⟨value, -, hvalue⟩ := hpaired.ofList.exists_of_mem_right hmem
    exact ⟨(Slot.setting_ok hvalue).1, (Slot.setting_ok hvalue).2.2⟩
  have hkeys : ∀ key, key ∈ Slot.required store →
      key ∈ Entries.keys (taggedEntries span (Entries.ofList given)) := by
    intro key hkey
    exact Entries.mem_keys_update.mpr (.inr (Entries.contains_iff.mp (hrequired key hkey)))
  obtain ⟨fields, hfields, hnodup, hentries⟩ := each_tagged hsetting span
  cases hfields
  refine ⟨_, rfl, hnodup, fun key hkey => ?_, ?_, ?_, fun key v hmem hflag => ?_⟩
  · obtain ⟨⟨key, v⟩, hmem, rfl⟩ := List.mem_map.mp hkey
    by_cases hmarker : key = markerKey
    · exact hmarker ▸ List.mem_cons_self
    · exact List.mem_cons_of_mem _ (hentries key v hmem hmarker).1
  · exact hkeys "type" (by cases store <;> simp [Slot.required])
  · rintro rfl
    exact hkeys "init" (by simp [Slot.required])
  · have hne : key ≠ markerKey := by rcases hflag with rfl | rfl <;> decide
    have hmem' : key ∈ Slot.flags := by
      rcases hflag with rfl | rfl <;> decide
    exact isFlag_iff.mp ((hentries key v hmem hne).2 hmem')

theorem forall₂_of_typedParams {params : List (Param Node)} {items : List Json}
    (h : Node.typedParams params = .ok items) : List.Forall₂ IsParameter params items := by
  induction params generalizing items with
  | nil =>
      simp only [Node.typedParams, Except.ok.injEq] at h
      exact h ▸ .nil
  | cons param rest ih =>
      obtain ⟨span, name, type, first, others, rfl, -, hothers, rfl⟩ := Node.typedParams_cons_ok h
      exact .cons ⟨span, name, first, rfl, rfl⟩ (ih hothers)

theorem function_of_definition {node : Node} {v : Json} (h : node.definition = .ok v) :
    IsFunction node v := by
  obtain ⟨span, place, params, inner, body, flags, type, given, ret, items, rfl, hgiven, -, -,
    rfl⟩ := Node.definition_ok h
  exact ⟨span, place, params, .block inner body, none, none, flags, type, rfl, given, ret, items,
    forall₂_of_typedParams hgiven,
    Grammar.mapping_tagged (fun _ _ => trivial)⟩

end Schema

/-! ### Fields and documents -/

namespace Document

theorem slots_admitted {store : Store} {node : Node} {v : Json} (h : node.slots store = .ok v) :
    Schema.Each (fun _ => Schema.IsSlot store) v := by
  obtain ⟨span, properties, declared, rfl, hdeclared, rfl⟩ := Node.slots_ok h
  obtain ⟨written, -, heach⟩ := Schema.each_of_entriesWith hdeclared span
  refine heach.mono fun name w hw => ?_
  obtain ⟨slot, -, hslot⟩ := hw
  exact Schema.slot_of_declaration hslot

theorem value_admitted {field : Field} {node : Node} {v : Json} (h : value field node = .ok v) :
    Schema.Admits node field v := by
  cases field with
  | name =>
      obtain ⟨text, -, rfl⟩ := value_text_ok (.inl rfl) h
      exact ⟨text, rfl⟩
  | doc =>
      obtain ⟨text, -, rfl⟩ := value_text_ok (.inr rfl) h
      exact ⟨text, rfl⟩
  | method =>
      obtain ⟨name, rfl, -⟩ := value_method_ok h
      exact ⟨name, rfl⟩
  | input | output | zero | metadata => exact trivial
  | begin =>
      obtain ⟨body, items, -, -, rfl⟩ := value_begin_ok (.inl rfl) h
      exact ⟨items, rfl⟩
  | «end» =>
      obtain ⟨body, items, -, -, rfl⟩ := value_begin_ok (.inr rfl) h
      exact ⟨items, rfl⟩
  | action =>
      obtain ⟨params, body, names, items, -, -, -, -, rfl⟩ := value_action_ok h
      exact ⟨items, rfl⟩
  | fcns =>
      obtain ⟨span, properties, defined, rfl, hdefined, rfl⟩ := value_fcns_ok h
      obtain ⟨written, hwritten, heach⟩ := Schema.each_of_entriesWith hdefined span
      refine ⟨span, properties, written, rfl, hwritten, heach.mono fun name w hw => ?_⟩
      obtain ⟨function, hfunction, hw⟩ := hw
      exact ⟨function, hfunction, Schema.function_of_definition hw⟩
  | cells | pools => exact slots_admitted h
  | randseed =>
      obtain ⟨n, -, rfl⟩ := value_randseed_ok h
      exact ⟨n, rfl⟩
  | options =>
      obtain ⟨span, properties, given, rfl, -, rfl⟩ := value_options_ok h
      exact Schema.each_tagged (fun _ _ _ => trivial) span

theorem Conforms.nil (program : Program) : Conforms program [] where
  nodup := List.nodup_nil
  known := by simp
  value := by simp

/-- A statement adds one field, which was not there before. -/
theorem Conforms.append {program : Program} {document : Entries String Json} {statement : Node}
    {key : String} {v : Json} (h : Conforms program document)
    (hstatement : statement ∈ program.body) (hentry : entry document statement = .ok (key, v)) :
    Conforms program (document ++ [(key, v)]) := by
  obtain ⟨field, node, hassigned, hfield, hnew, hvalue⟩ := entry_ok hentry
  have hkey : field.key = key := by simpa using List.find?_some hfield
  have hfresh : key ∉ document.keys := by
    rw [← Entries.contains_iff, hnew]
    exact Bool.false_ne_true
  refine ⟨?_, ?_, fun other w hmem => ?_⟩
  · rw [← Entries.insert_eq_append v hfresh]
    exact Entries.nodup_keys_insert h.nodup key v
  · rw [Entries.keys_append]
    refine List.forall_mem_append.mpr ⟨h.known, List.forall_mem_singleton.mpr ?_⟩
    exact List.mem_map.mpr ⟨field, List.mem_of_find?_eq_some hfield, hkey⟩
  · rcases List.mem_append.mp hmem with hold | hadded
    · exact h.value other w hold
    · obtain ⟨hother, rfl⟩ := Prod.mk.inj (List.mem_singleton.mp hadded)
      -- A field is found by its key, so no other field has the key of the added one.
      have hfound : Field.ofKey? other.key = some other := by cases other <;> rfl
      rw [hother, hfield] at hfound
      obtain rfl := Option.some.inj hfound
      exact ⟨statement, hstatement, node, hother ▸ hassigned, value_admitted hvalue⟩

theorem required_of_incomplete?_eq_none {document : Entries String Json}
    (h : incomplete? document = none) :
    ∀ key ∈ ["input", "output", "action"], key ∈ document.keys := by
  have hnone := Option.map_eq_none_iff.mp h
  have hall : ∀ field ∈ Field.required, field.key ∈ document.keys := by
    intro field hfield
    simpa using List.find?_eq_none.mp hnone field hfield
  exact List.forall_mem_map.mpr hall

end Document

/-- **Documents satisfy the schema.** Their keys are distinct and among those of the fields, and the
required ones are there; and every value has the shape that its field demands. -/
theorem Program.compile_schema {program : Program} {document : Entries String Json}
    (h : program.compile = .ok document) : Document.Schema program document := by
  obtain ⟨hgathered, hcomplete⟩ := compile_eq_ok_iff.mp h
  have hconforms : Document.Conforms program document :=
    Document.gathered_induction hgathered (.nil program)
      fun d key v statement hstatement hd hentry => hd.append hstatement hentry
  exact ⟨hconforms, Document.required_of_incomplete?_eq_none hcomplete⟩

/-- A script that defines a function twice and declares state; only the places of its object
literals are known:

    input = "int";
    output = "int";
    action = function(input) { g(); };
    fcns = {g: function(x = "int", y = "int") { x; } >> "int",
      g: function(z = "int") { z; } >> "int"};
    cells = {n: {type: "int", init: 0, shared: true}};
    pools = {m: {type: "int"}};
    randseed = -7;
-/
def Program.stateful : Program :=
  let text (value : String) : Node := .literal none none (.str value) .null
  let name (value : String) : Node := .identifier none value
  let call (value : Node) : Node := .block none [.expressionStatement none value]
  let function (params : List (Param Node)) (value : Node) : Node :=
    .function none params (call value) none none ⟨false, false, false⟩
  let typed (param : String) : Param Node := ⟨name param, some (text "int")⟩
  let object (entries : List (String × Node)) : Node := .object (some ⟨4, 0, 6, 0⟩)
    (entries.map fun (key, value) => .property none (name key) value "init" false)
  let field (key : String) (value : Node) : Node :=
    .expressionStatement none (.assignment none "=" (name key) value)
  ⟨none,
    [field "input" (text "int"), field "output" (text "int"),
      field "action" (function [⟨name "input", none⟩] (.call none (name "g") [])),
      field "fcns" (object
        [("g", .binary none ">>" (function [typed "x", typed "y"] (name "x")) (text "int")),
          ("g", .binary none ">>" (function [typed "z"] (name "z")) (text "int"))]),
      field "cells" (object [("n", object [("type", text "int"),
        ("init", .literal none none (.int 0) .null),
        ("shared", .literal none none (.bool true) .null)])]),
      field "pools" (object [("m", object [("type", text "int")])]),
      field "randseed" (.unary none "-" (.literal none none (.int 7) .null) true)]⟩

/-- The document of `Program.stateful`. -/
def Program.statefulDocument : Entries String Json :=
  let marker : String × Json := ("@", .str "JS lines 4 to 6")
  [("input", .str "int"), ("output", .str "int"), ("action", .arr [.obj [("g", .arr [])]]),
    ("fcns", .obj [marker, ("g", .obj [("params", .arr [.obj [("z", .str "int")]]),
      ("ret", .str "int"), ("do", .arr [.str "z"])])]),
    ("cells", .obj [marker, ("n", .obj [marker, ("type", .str "int"), ("init", .int 0),
      ("shared", .bool true)])]),
    ("pools", .obj [marker, ("m", .obj [marker, ("type", .str "int")])]),
    ("randseed", .int (-7))]

theorem Program.compile_schema_stateful :
    stateful.compile = .ok statefulDocument ∧ Document.Schema stateful statefulDocument := by
  have h : stateful.compile = .ok statefulDocument := by cbv
  exact ⟨h, compile_schema h⟩

end PfaScript
