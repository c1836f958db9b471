import PfaScript.Compile.Fault
import PfaScript.Proofs.Marker

/-!
# The grammar of terms

Which values are expressions, functions and statements of a document. Objects have exactly the keys
that their form demands, in this order; each may start with a location marker, which is a text that
`M` allows. Types are arbitrary values, in which markers are such texts too.
-/

namespace PfaScript

namespace Grammar

open Json (MarkersIn)

/-- The object with these fields, which may start with a marker that `M` allows. -/
def Mapping (M : String → Prop) (fields : Entries String Json) (v : Json) : Prop :=
  v = .obj fields ∨ ∃ text, M text ∧ v = .obj ((markerKey, .str text) :: fields)

/-- The keys are distinct, and none of them is the key of markers. -/
def Named (fields : Entries String Json) : Prop := fields.keys.Nodup ∧ markerKey ∉ fields.keys

/-- A parameter with its type. -/
def Parameter (M : String → Prop) (v : Json) : Prop :=
  ∃ name type, name ≠ markerKey ∧ MarkersIn M type ∧ v = .obj [(name, type)]

mutual

/-- The values that are expressions. -/
inductive Expression (M : String → Prop) : Json → Prop
  | null : Expression M .null
  | bool (b : Bool) : Expression M (.bool b)
  | int (n : Int) : Expression M (.int n)
  | float (x : Double) : Expression M (.float x)
  | name (name : String) : Expression M (.str name)
  | text {v : Json} (text : String) (h : Mapping M [("string", .str text)] v) : Expression M v
  /-- A part of a value, at the end of a path. -/
  | part {v base : Json} {path : List Json} (hbase : Expression M base) (hne : path ≠ [])
      (hpath : ∀ step ∈ path, Expression M step)
      (h : Mapping M [("attr", base), ("path", .arr path)] v) : Expression M v
  /-- A value with another part at the end of a path. -/
  | partTo {v base value : Json} {path : List Json} (hbase : Expression M base)
      (hne : path ≠ []) (hpath : ∀ step ∈ path, Expression M step) (hvalue : Operand M value)
      (h : Mapping M [("attr", base), ("path", .arr path), ("to", value)] v) : Expression M v
  | application {v : Json} {name : String} {arguments : List Json} (hname : name ≠ markerKey)
      (harguments : ∀ argument ∈ arguments, Operand M argument)
      (h : Mapping M [(name, .arr arguments)] v) : Expression M v
  | conditional {v test consequent alternate : Json} (htest : Expression M test)
      (hconsequent : Expression M consequent) (halternate : Expression M alternate)
      (h : Mapping M [("if", test), ("then", consequent), ("else", alternate)] v) : Expression M v
  | slot {v : Json} (store : Store) (name : String) (h : Mapping M [(store.slot, .str name)] v) :
      Expression M v
  | slotPart {v : Json} {path : List Json} (store : Store) (name : String)
      (hpath : ∀ step ∈ path, Expression M step)
      (h : Mapping M [(store.slot, .str name), ("path", .arr path)] v) : Expression M v
  | slotTo {v value : Json} {path : List Json} (store : Store) (name : String)
      (hpath : ∀ step ∈ path, Expression M step) (hvalue : Operand M value)
      (h : Mapping M [(store.slot, .str name), ("path", .arr path), ("to", value)] v) :
      Expression M v
  /-- Only a pool has an initial value, beside a new one. -/
  | poolInit {v value initial : Json} {path : List Json} (name : String)
      (hpath : ∀ step ∈ path, Expression M step) (hvalue : Operand M value)
      (hinitial : Operand M initial)
      (h : Mapping M [(Store.pools.slot, .str name), ("path", .arr path), ("to", value),
        ("init", initial)] v) : Expression M v
  | doc {v : Json} (text : String) (h : Mapping M [("doc", .str text)] v) : Expression M v
  | newItems {v type : Json} {items : List Json} (hitems : ∀ item ∈ items, Expression M item)
      (htype : MarkersIn M type) (h : Mapping M [("new", .arr items), ("type", type)] v) :
      Expression M v
  | newEntries {v type : Json} {entries : Entries String Json} (hnamed : Named entries)
      (hentries : ∀ entry ∈ entries, Expression M entry.2) (htype : MarkersIn M type)
      (h : Mapping M [("new", .obj entries), ("type", type)] v) : Expression M v
  | binding {v : Json} {bound : Entries String Json} (hnamed : Named bound)
      (hbound : ∀ entry ∈ bound, Expression M entry.2) (h : Mapping M [("let", .obj bound)] v) :
      Expression M v
  | assignment {v : Json} {bound : Entries String Json} (hnamed : Named bound)
      (hbound : ∀ entry ∈ bound, Expression M entry.2) (h : Mapping M [("set", .obj bound)] v) :
      Expression M v
  | block {v : Json} {body : List Json} (hbody : ∀ item ∈ body, Statement M item)
      (h : Mapping M [("do", .arr body)] v) : Expression M v

/-- The values that can be arguments: expressions and functions. -/
inductive Operand (M : String → Prop) : Json → Prop
  | expression {v : Json} (h : Expression M v) : Operand M v
  | function {v : Json} (h : Function M v) : Operand M v

/-- The values that are functions: named or defined. -/
inductive Function (M : String → Prop) : Json → Prop
  | reference {v : Json} (name : String) (h : Mapping M [("fcn", .str name)] v) : Function M v
  | definition {v : Json} (h : Definition M v) : Function M v

/-- The values that define functions. -/
inductive Definition (M : String → Prop) : Json → Prop
  | definition {v ret : Json} {params body : List Json}
      (hparams : ∀ param ∈ params, Parameter M param) (hret : MarkersIn M ret)
      (hbody : ∀ item ∈ body, Statement M item)
      (h : Mapping M [("params", .arr params), ("ret", ret), ("do", .arr body)] v) :
      Definition M v

/-- One branch of a choice. -/
inductive Branch (M : String → Prop) : Json → Prop
  | branch {v test : Json} {body : List Json} (htest : Expression M test)
      (hbody : ∀ item ∈ body, Statement M item)
      (h : Mapping M [("if", test), ("then", .arr body)] v) : Branch M v

/-- The values that are statements. -/
inductive Statement (M : String → Prop) : Json → Prop
  | expression {v : Json} (h : Expression M v) (hv : v ≠ .null) : Statement M v
  | conditional {v : Json} (h : Branch M v) : Statement M v
  | conditionalElse {v test : Json} {body otherwise : List Json} (htest : Expression M test)
      (hbody : ∀ item ∈ body, Statement M item) (hotherwise : ∀ item ∈ otherwise, Statement M item)
      (h : Mapping M [("if", test), ("then", .arr body), ("else", .arr otherwise)] v) :
      Statement M v
  | choice {v : Json} {branches : List Json} (hlength : 2 ≤ branches.length)
      (hbranches : ∀ branch ∈ branches, Branch M branch)
      (h : Mapping M [("cond", .arr branches)] v) : Statement M v
  | choiceElse {v : Json} {branches otherwise : List Json} (hlength : 2 ≤ branches.length)
      (hbranches : ∀ branch ∈ branches, Branch M branch)
      (hotherwise : ∀ item ∈ otherwise, Statement M item)
      (h : Mapping M [("cond", .arr branches), ("else", .arr otherwise)] v) : Statement M v
  | whileLoop {v test : Json} {body : List Json} (htest : Expression M test)
      (hbody : ∀ item ∈ body, Statement M item)
      (h : Mapping M [("while", test), ("do", .arr body)] v) : Statement M v
  | untilLoop {v stop test : Json} {body : List Json} (hbody : ∀ item ∈ body, Statement M item)
      (htest : Expression M test) (hstop : Mapping M [("not", test)] stop)
      (h : Mapping M [("do", .arr body), ("until", stop)] v) : Statement M v
  | forLoop {v test : Json} {bound steps : Entries String Json} {body : List Json}
      (hbound : Named bound) (hinit : ∀ entry ∈ bound, Expression M entry.2)
      (htest : Expression M test) (hsteps : Named steps) (hne : steps ≠ [])
      (hstep : ∀ entry ∈ steps, Expression M entry.2) (hbody : ∀ item ∈ body, Statement M item)
      (h : Mapping M [("for", .obj bound), ("while", test), ("step", .obj steps),
        ("do", .arr body)] v) : Statement M v
  | forEach {v collection : Json} {body : List Json} (name : String)
      (hcollection : Expression M collection) (hbody : ∀ item ∈ body, Statement M item)
      (h : Mapping M [("foreach", .str name), ("in", collection), ("do", .arr body)] v) :
      Statement M v
  | error {v : Json} (text : String) (h : Mapping M [("error", .str text)] v) : Statement M v

end

variable {M : String → Prop}

/-! ### Building mappings -/

theorem Mapping.insert {fields entries : Entries String Json} {key : String}
    (h : Mapping M fields (.obj entries)) (hkey : key ∉ fields.keys) (hm : key ≠ markerKey)
    (value : Json) :
    Mapping M (fields ++ [(key, value)]) (.obj (entries.insert key value)) := by
  rcases h with h | ⟨text, htext, h⟩
  · cases h
    rw [Entries.insert_eq_append value hkey]
    exact .inl rfl
  · cases h
    have hnew : key ∉ Entries.keys ((markerKey, .str text) :: fields) := by
      rw [Entries.keys_cons, List.mem_cons, not_or]
      exact ⟨hm, hkey⟩
    rw [Entries.insert_eq_append value hnew]
    exact .inr ⟨text, htext, rfl⟩

/-- The fields of a form are `Named` by computation, which is done where no proof is given. -/
theorem mapping_taggedEntries {fields : Entries String Json} {span : Option Span}
    (hspan : ∀ place ∈ span, M place.describe)
    (hfields : Named fields := by simp [Grammar.Named, markerKey]) :
    Mapping M fields (.obj (taggedEntries span fields)) := by
  cases span with
  | none =>
      rw [taggedEntries, marker, Entries.update_eq_append hfields.1 (by simp)]
      exact .inl rfl
  | some place =>
      have hnew : ∀ key ∈ fields.keys, key ∉ Entries.keys (marker (some place)) := by
        intro key hkey hmem
        have heq : key = markerKey := List.mem_singleton.mp hmem
        exact hfields.2 (heq ▸ hkey)
      rw [taggedEntries, Entries.update_eq_append hfields.1 hnew]
      exact .inr ⟨place.describe, hspan place rfl, rfl⟩

theorem mapping_tagged {fields : Entries String Json} {span : Option Span}
    (hspan : ∀ place ∈ span, M place.describe)
    (hfields : Named fields := by simp [Grammar.Named, markerKey]) :
    Mapping M fields (tagged span fields) :=
  mapping_taggedEntries hspan hfields

/-- The key of a slot is no other key of its forms. -/
theorem named_slot (store : Store) {value : Json} {fields : Entries String Json}
    (hcell : Named (("cell", value) :: fields) := by simp [Grammar.Named, markerKey])
    (hpool : Named (("pool", value) :: fields) := by simp [Grammar.Named, markerKey]) :
    Named ((store.slot, value) :: fields) := by
  cases store with
  | cells => exact hcell
  | pools => exact hpool

/-- A mapping of names that are assigned in order. -/
theorem named_ofList {entries : List (String × Json)} (h : ∀ entry ∈ entries, entry.1 ≠ markerKey) :
    Named (Entries.ofList entries) := by
  refine ⟨Entries.nodup_keys_ofList entries, fun hmem => ?_⟩
  obtain ⟨entry, hentry, heq⟩ := List.mem_map.mp (Entries.mem_keys_ofList.mp hmem)
  exact h entry hentry heq

end Grammar

end PfaScript
