import PfaScript.Proofs.Children
import PfaScript.Proofs.Keyed
import PfaScript.Proofs.NumberText
import PfaScript.Proofs.Order
import PfaScript.Proofs.Reading
import PfaScript.Proofs.Rereading
import PfaScript.Proofs.Running
import PfaScript.Proofs.Uniform

/-!
# What documents inherit from texts

A property of values is inherited (`Json.Inherited`) if everything that is read from a text has it,
if it passes from values to their parts, and from the parts of a compiled value to the whole. The
literals of a script hold parts of the tree that the script was read from, so they have the property
(`Node.literalHas_of_loaded`), and with them the document (`Disk.HasScript.inherited`).

Two properties are inherited: that all objects have distinct keys, since of two fields with one key
the later one replaces the earlier one, and that no integer has too many digits.
-/

namespace PfaScript

namespace Json

open Reader

/-- A property that values have when they are read, that passes to their parts, and from the parts
of compiled values to these. -/
structure Inherited (P : Json → Prop) : Prop where
  number {cs rest : List Char} {v : Json} : number cs = .ok (v, rest) → P v
  null : P .null
  bool (b : Bool) : P (.bool b)
  nan : P (.float .nan)
  infinite (negative : Bool) : P (.float (.infinite negative))
  str (s : String) : P (.str s)
  arr {items : List Json} : (∀ item ∈ items, P item) → P (.arr items)
  ofList {entries : List (String × Json)} :
    (∀ entry ∈ entries, P entry.2) → P (.obj (Entries.ofList entries))
  parts : Load.Hereditary P
  negated {value number : Json} : P value → value.negated? = some number → P number
  whole {x : Double} {n : Int} : P (.float x) → x.toInt? = some n → P (.int n)
  tagged {entries : Entries String Json} (span : Option Span) :
    (∀ entry ∈ entries, P entry.2) → P (tagged span entries)
  insert {fields : Entries String Json} {v : Json} (key : String) :
    P (.obj fields) → P v → P (.obj (fields.insert key v))

variable {P : Json → Prop}

/-! ### Reading -/

namespace Reader

/-- What is read item by item has the property of the items. -/
theorem sequence_gives {α : Type} {Q : α → Prop} {closing : Char}
    {item : List Char → Except Fault (α × List Char)}
    (hitem : ∀ cs a rest, item cs = .ok (a, rest) → Q a) {fuel : Nat} {cs rest : List Char}
    {items : List α} (h : sequence closing item fuel cs = .ok (items, rest)) :
    ∀ a ∈ items, Q a := by
  induction fuel generalizing cs items with
  | zero => cases h
  | succ fuel ih =>
      rw [sequence] at h
      obtain ⟨⟨first, after⟩, hfirst, hmore⟩ := bind_eq_ok_iff.mp h
      have hQ := hitem _ _ _ hfirst
      dsimp only at hmore
      split at hmore
      · obtain ⟨⟨others, left⟩, hothers, heq⟩ := bind_eq_ok_iff.mp hmore
        cases heq
        exact List.forall_mem_cons.mpr ⟨hQ, ih hothers⟩
      · split at hmore <;> cases hmore
        exact List.forall_mem_singleton.mpr hQ

/-- The value of a field is a value. -/
theorem field_gives {value : List Char → Except Fault (Json × List Char)}
    (hvalue : ∀ cs v rest, value cs = .ok (v, rest) → P v) {cs rest : List Char}
    {entry : String × Json} (h : field value cs = .ok (entry, rest)) : P entry.2 := by
  unfold field at h
  split at h
  · obtain ⟨⟨key, after⟩, -, hcolon⟩ := bind_eq_ok_iff.mp h
    dsimp only at hcolon
    split at hcolon
    · obtain ⟨⟨item, left⟩, hitem, heq⟩ := bind_eq_ok_iff.mp hcolon
      cases heq
      exact hvalue _ _ _ hitem
    · cases hcolon
  · cases h

/-- A value is a word, a number, or made of what is read inside brackets. -/
theorem value_gives (hP : Inherited P) {fuel : Nat} {cs rest : List Char} {v : Json}
    (hvalue : value fuel cs = .ok (v, rest)) : P v := by
  induction fuel generalizing cs v rest with
  | zero => cases hvalue
  | succ fuel ih =>
      rw [value.eq_def] at hvalue
      dsimp only at hvalue
      split at hvalue
      · obtain ⟨⟨s, after⟩, -, hs⟩ := bind_eq_ok_iff.mp hvalue
        cases hs
        exact hP.str s
      · split at hvalue
        · cases hvalue
          show P (.obj (Entries.ofList []))
          exact hP.ofList (by simp)
        · obtain ⟨⟨fields, after⟩, hfields, heq⟩ := bind_eq_ok_iff.mp hvalue
          cases heq
          exact hP.ofList (sequence_gives (fun _ _ _ => field_gives fun _ _ _ => ih) hfields)
      · split at hvalue
        · cases hvalue
          exact hP.arr (by simp)
        · obtain ⟨⟨items, after⟩, hitems, heq⟩ := bind_eq_ok_iff.mp hvalue
          cases heq
          exact hP.arr (sequence_gives (fun _ _ _ => ih) hitems)
      all_goals first
        | exact hP.number hvalue
        | (cases hvalue; first
            | exact hP.null
            | exact hP.bool _
            | exact hP.nan
            | exact hP.infinite _)

end Reader

/-- A value that was read has every inherited property. -/
theorem Inherited.of_read? (hP : Inherited P) {text : String} {v : Json}
    (h : read? text = .ok v) : P v := by
  obtain ⟨rest, hvalue, -⟩ := document_ok_iff.mp (read?_ok_iff.mp h).2
  exact value_gives hP hvalue

end Json

/-! ### Loading -/

namespace Node

variable {P : Json → Prop}

/-- What a literal holds has the property. -/
def LiteralHas (P : Json → Prop) : Node → Prop
  | .literal _ _ value _ => P value
  | _ => True

/-- A literal holds the value of one of its fields, or null. -/
theorem literalHas_of_loaded (hP : Load.Hereditary P) (hnull : P .null) {node : Node}
    (h : Load.LoadedFrom P node) : node.LiteralHas P := by
  obtain ⟨v, hv, h⟩ := h
  obtain ⟨fields, tag, span, rfl, -, -, hcases⟩ := Load.node_eq_ok h
  rcases hcases with ⟨-, rfl⟩ | ⟨c, make, -, hmake, rfl⟩
  · trivial
  have hvalue : P ((fields.get? "value").getD .null) := by
    cases hget : fields.get? "value" with
    | none => exact hnull
    | some value => exact hP.field hv hget
  revert hmake
  cases c <;>
    simp only [Load.build, bind_eq_ok_iff, pure_eq_ok, Except.ok.injEq, Prod.exists,
      forall_exists_index, and_imp]
  case literal | typedLiteral =>
    rintro rfl
    exact hvalue
  case nullLiteral | regexLiteral =>
    rintro rfl
    exact hnull
  all_goals
    intros
    subst_vars
    trivial

/-- The literals of a tree have the property if what it is read from has. -/
theorem literalHas_of_mem_walk (hP : Load.Hereditary P) (hnull : P .null) (node : Node)
    (h : Load.LoadedFrom P node) : ∀ below ∈ node.walk, below.LiteralHas P := by
  induction node using induction_children with
  | step node ih =>
      rw [walk_eq, List.forall_mem_cons]
      refine ⟨literalHas_of_loaded hP hnull h, ?_⟩
      intro below hbelow
      obtain ⟨child, hchild, hwalk⟩ := List.mem_flatMap.mp hbelow
      exact ih child hchild (Load.loadedFrom_of_mem_children hP h hchild) below hwalk

end Node

/-- The literals of a script have the property if the tree that it was read from has. -/
theorem Program.literalHas_of_load {P : Json → Prop} (hP : Load.Hereditary P) (hnull : P .null)
    {v : Json} {program : Program} (hv : P v) (h : Program.load v = .ok program) :
    ∀ node ∈ Node.walkAll program.body, node.LiteralHas P := by
  unfold load at h
  obtain ⟨node, hnode, h⟩ := bind_eq_ok_iff.mp h
  have hloaded : Load.LoadedFrom P node := by
    refine ⟨_, ?_, hnode⟩
    split
    next fields =>
      split
      · cases hget : Entries.get? fields "program" with
        | none => exact hnull
        | some inner => exact hP.field hv hget
      · exact hv
    · exact hv
  cases node with
  | program span body =>
      cases h
      have hwalk := Node.literalHas_of_mem_walk hP hnull _ hloaded
      rw [Node.walk, List.forall_mem_cons] at hwalk
      exact hwalk.2
  | _ => cases h

/-! ### Compiling -/

/-- An inherited property passes from the parts of a compiled value to the whole. -/
theorem Json.Inherited.uniform {P : Json → Prop} (hP : Inherited P) :
    Results.Uniform (Node.LiteralHas P) (fun _ => True) (fun _ => True) P where
  place _ := trivial
  variableName _ := trivial
  fixedName _ := trivial
  literal h := h
  bool := hP.bool
  one := hP.number (show Reader.number ['1'] = .ok (.int 1, []) from rfl)
  negated := hP.negated
  whole := hP.whole
  str := hP.str
  arr := hP.arr
  mapping _ h := hP.tagged _ fun entry hentry => (h entry hentry).2
  ofList h := hP.ofList fun entry hentry => (h entry hentry).2
  insert h _ hv := hP.insert _ h hv

/-- The fields of a script's document have every inherited property. -/
theorem Disk.HasScript.inherited {P : Json → Prop} (hP : Json.Inherited P) {disk : Disk}
    {script : Path} {program : Program} {document : Entries String Json}
    (h : disk.HasScript script program) (hcompile : program.compile = .ok document) :
    ∀ entry ∈ document, P entry.2 := by
  obtain ⟨text, tree, -, htree, hload⟩ := h
  exact fun entry hentry => (hP.uniform.of_compile (Program.literalHas_of_load hP.parts hP.null
    (hP.of_read? htree) hload) hcompile entry hentry).2

/-! ### What is inherited -/

namespace Json

open Reader

/-- A number is an integer with not too many digits or a rounded decimal number. -/
theorem number_value {cs rest : List Char} {v : Json} (h : number cs = .ok (v, rest)) :
    (∃ n, v = .int n ∧ Integer.isLong n = false) ∨
      ∃ negative digits exponent, v = .float (Double.ofDecimal negative digits exponent) := by
  obtain ⟨hfound, hshort⟩ := number_ok_iff.mp h
  have hunsigned {negative : Bool} {cs : List Char}
      (hsome : unsignedNumber? negative cs = some (v, rest)) :
      ∃ whole after, numberTail negative whole after = (v, rest) := by
    unfold unsignedNumber? at hsome
    split at hsome
    · exact ⟨_, _, Option.some.inj hsome⟩
    · split at hsome
      · exact ⟨_, _, Option.some.inj hsome⟩
      · cases hsome
    · cases hsome
  obtain ⟨negative, whole, after, htail⟩ :
      ∃ negative whole after, numberTail negative whole after = (v, rest) := by
    unfold signedNumber? at hfound
    split at hfound
    · exact ⟨true, hunsigned hfound⟩
    · exact ⟨false, hunsigned hfound⟩
  unfold numberTail at htail
  dsimp only at htail
  split at htail <;> cases htail
  · exact .inl ⟨_, rfl, hshort⟩
  · exact .inr ⟨_, _, _, rfl⟩

/-- Distinct keys are inherited. -/
theorem inherited_keyed : Inherited Keyed where
  number h := by
    rcases number_value h with ⟨n, rfl, -⟩ | ⟨_, _, _, rfl⟩ <;> constructor
  null := .null
  bool := .bool
  nan := .float _
  infinite _ := .float _
  str := .str
  arr := .arr
  ofList := keyed_ofList
  parts := ⟨fun h hget => h.of_get? hget, fun h hitem => h.items _ hitem⟩
  negated {value _} _ hnumber := by
    cases value <;> cases hnumber <;> constructor
  whole _ _ := .int _
  tagged span h := keyed_tagged span h
  insert key h hv := h.insert key hv

/-- No integer has too many digits, nor has the whole number that a double is. -/
def Short (v : Json) : Prop :=
  ∀ a ∈ v.atoms, a.isLong = false ∧
    ∀ x n, a = .float x → x.toInt? = some n → Integer.isLong n = false

theorem short_arr {items : List Json} : Short (.arr items) ↔ ∀ item ∈ items, Short item := by
  unfold Short
  simp only [mem_atoms_arr, forall_exists_index, and_imp]
  exact ⟨fun h item hitem a ha => h a item hitem ha, fun h a item hitem ha => h item hitem a ha⟩

theorem short_obj {fields : Entries String Json} :
    Short (.obj fields) ↔ ∀ entry ∈ fields, Short entry.2 := by
  unfold Short
  simp only [mem_atoms_obj, forall_exists_index, and_imp]
  exact ⟨fun h entry hentry a ha => h a entry hentry ha,
    fun h a entry hentry ha => h entry hentry a ha⟩

theorem short_int {n : Int} : Short (.int n) ↔ Integer.isLong n = false := by
  simp [Short, atoms, isLong]

theorem short_float {x : Double} :
    Short (.float x) ↔ ∀ n, x.toInt? = some n → Integer.isLong n = false := by
  simp only [Short, atoms, isLong, List.mem_singleton, forall_eq, Json.float.injEq, true_and]
  exact ⟨fun h n => h x n rfl, fun h y n heq => heq ▸ h n⟩

/-- Short integers are inherited: a text with a long one is not read, and the whole numbers that are
doubles are short. -/
theorem inherited_short : Inherited Short where
  number h := by
    rcases number_value h with ⟨n, rfl, hshort⟩ | ⟨_, _, _, rfl⟩
    · exact short_int.mpr hshort
    · exact short_float.mpr fun n => Double.isLong_ofDecimal
  null := by simp [Short, atoms, isLong]
  bool _ := by simp [Short, atoms, isLong]
  nan := short_float.mpr fun n hn => by cases hn
  infinite _ := short_float.mpr fun n hn => by cases hn
  str _ := by simp [Short, atoms, isLong]
  arr := short_arr.mpr
  ofList h := short_obj.mpr fun entry hentry => h entry (Entries.mem_of_mem_ofList hentry)
  parts := ⟨fun h hget => short_obj.mp h _ (Entries.mem_of_get? hget),
    fun h hitem => short_arr.mp h _ hitem⟩
  negated {value _} h hnumber := by
    cases value with
    | int n =>
        cases hnumber
        rw [short_int, Integer.isLong, Integer.digitCount, Int.natAbs_neg]
        exact short_int.mp h
    | float x =>
        cases hnumber
        exact short_float.mpr fun n => Double.isLong_neg (short_float.mp h)
    | _ => cases hnumber
  whole h hn := short_int.mpr (short_float.mp h _ hn)
  tagged span h := by
    refine short_obj.mpr fun entry hentry => ?_
    rcases Entries.mem_of_mem_update hentry with hmarker | hentry
    · cases span with
      | none => cases hmarker
      | some place =>
          obtain rfl := List.mem_singleton.mp hmarker
          simp [Short, atoms, isLong]
    · exact h entry hentry
  insert key h hv := by
    refine short_obj.mpr fun entry hentry => ?_
    rcases Entries.mem_of_mem_insert hentry with hold | rfl
    · exact short_obj.mp h entry hold
    · exact hv

theorem Short.hasLong {v : Json} (h : Short v) : v.hasLong = false :=
  hasLong_eq_false_iff.mpr fun a ha => (h a ha).1

/-- Stripping keeps integers short. -/
theorem Short.strip {v : Json} (h : Short v) (hkeyed : Keyed v) : Short v.strip :=
  fun a ha => h a (atoms_strip hkeyed a ha)

end Json

section

variable {disk : Disk} {script : Path} {program : Program} {document : Entries String Json}
  (h : disk.HasScript script program) (hcompile : program.compile = .ok document)

include h hcompile

/-- The documents of a script are keyed. -/
theorem Disk.HasScript.keyed : Json.Keyed (.obj document) :=
  .obj (Program.compile_ok_iff.mp hcompile).2.1 (h.inherited Json.inherited_keyed hcompile)

/-- The documents of a script have short integers. -/
theorem Disk.HasScript.short : Json.Short (.obj document) :=
  Json.short_obj.mpr (h.inherited Json.inherited_short hcompile)

end

end PfaScript
