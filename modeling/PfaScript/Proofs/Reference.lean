import Mathlib
import PfaScript.Proofs.Compound

/-!
# References to functions

A function can be referred to by a text, as in `fcn("u.inc")`, or by its name, as in `fcn(inc)`.
Both stand for the same in every place where a function can be given, since such a place depends on
what stands there only through its operand (`Node.FunctionPlace.agree`).

Names of functions may have several parts, as in `u.inc`, but a reference by such a name is not
recognized: it is compiled as the call of a function named `fcn`, whose argument is the part `inc`
of `u`. **Theorem** (`Node.reference_by_name_iff`): of all the names by which functions can be
called, exactly the plain ones can be used to refer to them.
-/

namespace PfaScript

open Json (Same SameItems SameFields)

namespace Node

/-! ### Places for functions -/

/-- The expressions with a place where a function can be given, as functions of what is there. -/
inductive FunctionPlace : (Node → Node) → Prop
  /-- An argument of a call, unless the called function has rules of its own. -/
  | argument {callee : Node} {name : String} (hcallee : callee.functionName = .ok name)
    (hname : name ∉ ["cell", "pool", "doc"]) (span : Option Span) (before after : List Node) :
    FunctionPlace fun node => .call span callee (before ++ node :: after)
  /-- The new value of a slot. -/
  | newValue {callee : Node} {store : Store} (hcallee : callee.functionName = .ok store.slot)
    (span : Option Span) (slot path : Node) (after : List Node) :
    FunctionPlace fun node => .call span callee (slot :: path :: node :: after)
  /-- The initial value of a slot of a pool. -/
  | initialValue {callee : Node} (hcallee : callee.functionName = .ok Store.pools.slot)
    (span : Option Span) (slot path value : Node) :
    FunctionPlace fun node => .call span callee [slot, path, value, node]
  /-- The value that is assigned to a part of a value. -/
  | assigned (span place : Option Span) (operator : String) (base access : Node)
    (computed : Bool) :
    FunctionPlace fun node => .assignment span operator (.member place base access computed) node

section calls

variable {callee : Node} {span : Option Span}

theorem term_call_ordinary {name : String} (hcallee : callee.functionName = .ok name)
    (hname : name ∉ ["cell", "pool", "doc"]) (arguments : List Node) :
    term (.call span callee arguments) = (do
      let arguments ← operands arguments
      return application span (if name = "console.log" then "log" else name) arguments) := by
  simp only [List.mem_cons, List.not_mem_nil, or_false, not_or] at hname
  rw [term, hcallee, ok_bind, if_neg hname.1, if_neg hname.2.1, if_neg hname.2.2]

/-- The largest number of arguments of a call that reads or writes a slot. -/
def mostArguments : Store → Nat
  | .cells => 3
  | .pools => 4

theorem term_call_slot {store : Store} (hcallee : callee.functionName = .ok store.slot)
    (arguments : List Node) :
    term (.call span callee arguments) =
      stateAccess span store (mostArguments store) arguments := by
  rw [term, hcallee, ok_bind]
  cases store <;> rfl

end calls

section agree

variable {node other : Node} (h : Agree Same (operand node) (operand other))

include h

theorem operands_agree_of_operand (before after : List Node) :
    Agree SameItems (operands (before ++ node :: after)) (operands (before ++ other :: after)) := by
  induction before with
  | nil =>
      simp only [List.nil_append, operands]
      refine h.bind fun first first' hfirst => ?_
      cases operands after with
      | error fault => exact .error rfl
      | ok rest => exact .ok (.cons hfirst rfl)
  | cons first rest ih =>
      simp only [List.cons_append, operands]
      cases operand first with
      | error fault => exact .error rfl
      | ok v => exact ih.bind fun _ _ hrest => .ok (.cons rfl hrest)

/-- What changes a slot depends on the new value only through its operand. -/
theorem stateChanges_agree_newValue (path : Node) (after : List Node) :
    Agree SameFields (stateChanges (path :: node :: after))
      (stateChanges (path :: other :: after)) := by
  match after with
  | [] | _ :: _ :: _ =>
      simp only [stateChanges]
      exact h.bind fun _ _ hvalue => .ok (.cons "to" hvalue .nil)
  | [initial] =>
      simp only [stateChanges]
      refine h.bind fun _ _ hvalue => ?_
      cases operand initial with
      | error fault => exact .error rfl
      | ok v => exact .ok (.cons "to" hvalue (.cons "init" rfl .nil))

theorem stateChanges_agree_initialValue (path value : Node) :
    Agree SameFields (stateChanges [path, value, node]) (stateChanges [path, value, other]) := by
  simp only [stateChanges]
  cases operand value with
  | error fault => exact .error rfl
  | ok v => exact h.bind fun _ _ hinitial => .ok (.cons "to" rfl (.cons "init" hinitial .nil))

end agree

/-- The path into a slot stands in the second argument alone. -/
theorem statePath_cons (store : Store) (path : Node) (rest : List Node) :
    statePath store (path :: rest) = statePath store [path] := by
  cases path <;> simp only [statePath]

/-- Two calls with the same slot and path agree if they change the slot alike. -/
theorem stateAccess_agree_of_changes {span : Option Span} {store : Store} {most : Nat}
    {slot path : Node} {rest rest' : List Node} (hlength : rest.length = rest'.length)
    (h : Agree SameFields (stateChanges (path :: rest)) (stateChanges (path :: rest'))) :
    Agree Same (stateAccess span store most (slot :: path :: rest))
      (stateAccess span store most (slot :: path :: rest')) := by
  simp only [stateAccess, List.length_cons, hlength]
  split
  · exact .error rfl
  · cases slot.name? with
    | none => exact .error rfl
    | some name =>
        rw [statePath_cons store path rest, statePath_cons store path rest']
        cases statePath store [path] with
        | error fault => exact .error rfl
        | ok entries =>
            refine h.bind fun changes changes' hchanges => ?_
            exact .ok ((SameFields.cons store.slot rfl
              (SameFields.append rfl hchanges)).tagged _ _)

/-- A place for a function depends on what is there only through its operand. -/
theorem FunctionPlace.agree {place : Node → Node} (hplace : FunctionPlace place)
    {node other : Node} (h : Agree Same (operand node) (operand other)) :
    Agree Same (term (place node)) (term (place other)) := by
  cases hplace with
  | argument hcallee hname span before after =>
      rw [term_call_ordinary hcallee hname, term_call_ordinary hcallee hname]
      refine (operands_agree_of_operand h before after).bind fun items items' hitems => ?_
      exact .ok (application_same hitems _ _ _)
  | newValue hcallee span slot path after =>
      rw [term_call_slot hcallee, term_call_slot hcallee]
      exact stateAccess_agree_of_changes rfl (stateChanges_agree_newValue h path after)
  | initialValue hcallee span slot path value =>
      rw [term_call_slot hcallee, term_call_slot hcallee]
      exact stateAccess_agree_of_changes rfl (stateChanges_agree_initialValue h path value)
  | assigned span inner operator base access computed =>
      by_cases hoperator : isAssignmentOperator operator = true
      · rw [term_assignment_member hoperator, term_assignment_member hoperator]
        cases accesses inner base access computed with
        | error fault => exact .error rfl
        | ok target =>
            obtain ⟨root, path⟩ := target
            refine h.bind fun v w hv => ?_
            refine (assigned_agree rfl hv span span operator).bind fun stored stored' hstored => ?_
            exact .ok (SameFields.insert rfl "to" hstored).obj
      · simp only [term, hoperator]
        exact .error rfl

/-- An argument can be told from the term of a call with it. -/
theorem operand_of_call_agree {node other : Node} {w : Json} (hother : operand other = .ok w)
    (h : Agree Same (term (.call none (.identifier none "f") [node]))
      (term (.call none (.identifier none "f") [other]))) :
    ∃ v, operand node = .ok v ∧ Same v w := by
  rw [term_call_ordinary rfl (by decide), term_call_ordinary rfl (by decide)] at h
  simp only [operands, hother, ok_bind, pure_eq_ok] at h
  cases hnode : operand node with
  | error fault =>
      rw [hnode] at h
      cases h
  | ok v =>
      rw [hnode] at h
      cases h with
      | ok hsame =>
          refine ⟨v, rfl, ?_⟩
          simpa [Same, application, tagged, taggedEntries, marker, Entries.update, Entries.insert,
            Json.stripFields_cons, markerKey] using hsame

/-! ### References -/

/-- A reference to a function by the given argument: `fcn(argument)`. -/
def reference (span place : Option Span) (argument : Node) : Node :=
  .call span (.identifier place "fcn") [argument]

/-- Whether a node is an identifier. -/
def isIdentifier : Node → Bool
  | .identifier .. => true
  | _ => false

section reference

variable (span place : Option Span)

theorem operand_reference_text (inner : Option Span) (raw : Option Json) (name : String)
    (pattern : Json) :
    operand (reference span place (.literal inner raw (.str name) pattern)) =
      .ok (tagged span [("fcn", .str name)]) :=
  operand_of_functionReference? rfl

theorem operand_reference_identifier (inner : Option Span) (name : String) :
    operand (reference span place (.identifier inner name)) =
      .ok (tagged span [("fcn", .str name)]) :=
  operand_of_functionReference? rfl

/-- A name of several parts is taken for an argument of a function named `fcn`. -/
theorem operand_reference_member (inner : Option Span) (base access : Node) (computed : Bool) :
    operand (reference span place (.member inner base access computed)) = (do
      let part ← term (.member inner base access computed)
      return application span "fcn" [part]) := by
  have hform : (reference span place (.member inner base access computed)).isFunctionForm = false :=
    rfl
  have hpart : (Node.member inner base access computed).isFunctionForm = false := rfl
  rw [operand_of_not_isFunctionForm hform, reference,
    term_call_ordinary rfl (by decide), operands, operands, operand_of_not_isFunctionForm hpart]
  cases term (.member inner base access computed) <;> rfl

end reference

theorem strip_reference (span : Option Span) (name : String) :
    (tagged span [("fcn", .str name)]).strip = .obj [("fcn", .str name)] := by
  cases span <;> rfl

/-- The call of a function named `fcn` is no reference. -/
theorem strip_application_fcn_ne (span : Option Span) (arguments : List Json) (name : String) :
    (application span "fcn" arguments).strip ≠ .obj [("fcn", .str name)] := by
  have hstrip : (application span "fcn" arguments).strip =
      .obj [("fcn", .arr (Json.stripItems arguments))] := by
    cases span <;> rfl
  rw [hstrip]
  intro h
  cases h

section name

variable {argument : Node} {name : String} (hname : argument.functionName = .ok name)

include hname

theorem eq_identifier_or_member_of_functionName :
    (∃ span, argument = .identifier span name) ∨
      ∃ span base access computed, argument = .member span base access computed := by
  cases argument with
  | identifier span written =>
      rw [functionName] at hname
      cases hname
      exact .inl ⟨span, rfl⟩
  | member span base access computed => exact .inr ⟨span, base, access, computed, rfl⟩
  | _ => simp [functionName] at hname

/-- A reference by name is what it should be exactly if the name is plain. -/
theorem operand_reference_iff (span place : Option Span) :
    (∃ v, operand (reference span place argument) = .ok v ∧ v.strip = .obj [("fcn", .str name)]) ↔
      argument.isIdentifier = true := by
  rcases eq_identifier_or_member_of_functionName hname with
    ⟨inner, rfl⟩ | ⟨inner, base, access, computed, rfl⟩
  · refine iff_of_true ?_ rfl
    exact ⟨_, operand_reference_identifier span place inner name, strip_reference span name⟩
  · refine iff_of_false ?_ Bool.false_ne_true
    rintro ⟨v, hv, hstrip⟩
    rw [operand_reference_member, bind_eq_ok_iff] at hv
    obtain ⟨part, -, hv⟩ := hv
    cases hv
    exact strip_application_fcn_ne span [part] name hstrip

end name

/-- **Functions are referred to by plain names only.** Let `argument` be a name by which a function
can be called, so an identifier or parts joined by points. Then `fcn(argument)` is the reference to
that function exactly if `argument` is an identifier; and exactly then it can be exchanged with the
reference by a text, `fcn("name")`, in every place where a function can be given. Any other name is
taken for the argument of a call. -/
theorem reference_by_name_iff {argument : Node} {name : String}
    (hname : argument.functionName = .ok name) (span span' inner inner' place : Option Span)
    (raw : Option Json) :
    ((∃ v, operand (reference span inner argument) = .ok v ∧
      v.strip = .obj [("fcn", .str name)]) ↔ argument.isIdentifier = true) ∧
    ((∀ hole, FunctionPlace hole → Agree Same (term (hole (reference span inner argument)))
      (term (hole (reference span' inner' (.literal place raw (.str name) .null))))) ↔
      argument.isIdentifier = true) ∧
    (argument.isIdentifier = false → operand (reference span inner argument) = (do
      let part ← term argument
      return application span "fcn" [part])) := by
  have htext := operand_reference_text span' inner' place raw name .null
  refine ⟨operand_reference_iff hname span inner, ⟨fun hall => ?_, fun hplain => ?_⟩, ?_⟩
  · -- One place is enough: the argument of a call `f(...)`.
    have hplace : FunctionPlace fun node => .call none (.identifier none "f") [node] :=
      .argument rfl (by decide) none [] []
    obtain ⟨v, hv, hsame⟩ := operand_of_call_agree htext (hall _ hplace)
    refine (operand_reference_iff hname span inner).mp ⟨v, hv, ?_⟩
    exact hsame.trans (strip_reference span' name)
  · intro hole hhole
    refine hhole.agree ?_
    obtain ⟨v, hv, hstrip⟩ := (operand_reference_iff hname span inner).mpr hplain
    rw [hv, htext]
    exact .ok (hstrip.trans (strip_reference span' name).symm)
  · intro hplain
    rcases eq_identifier_or_member_of_functionName hname with
      ⟨inner, rfl⟩ | ⟨inner, base, access, computed, rfl⟩
    · cases hplain
    · exact operand_reference_member span _ inner base access computed

/-- The plain name `inc` can be given as the initial value of a pool's slot. -/
theorem reference_by_name_iff_initial :
    (identifier none "inc").functionName = .ok "inc" ∧
      Agree Same
        (term (.call none (.identifier none "pool") [.identifier none "p", .array none [],
          .identifier none "x", reference none none (.identifier none "inc")]))
        (term (.call none (.identifier none "pool") [.identifier none "p", .array none [],
          .identifier none "x", reference none none (.literal none none (.str "inc") .null)])) := by
  have hname : (identifier none "inc").functionName = .ok "inc" := rfl
  refine ⟨hname, ?_⟩
  have hplaces := (reference_by_name_iff hname none none none none none none).2.1.mpr rfl
  exact hplaces _ (.initialValue rfl none (.identifier none "p") (.array none [])
    (.identifier none "x"))

/-- The name `u.inc`, by which a function can be called. -/
def dottedName : Node := .member none (.identifier none "u") (.identifier none "inc") false

/-- A name with a point gives no reference: `fcn(u.inc)` is a call. -/
theorem dotted_reference_called :
    ∃ name v, dottedName.functionName = .ok name ∧
      operand (reference none none dottedName) = .ok v ∧ v.strip ≠ .obj [("fcn", .str name)] ∧
      operand (reference none none (.literal none none (.str name) .null)) =
        .ok (.obj [("fcn", .str name)]) := by
  refine ⟨"u.inc", .obj [("fcn", .arr [.obj [("attr", .str "u"),
    ("path", .arr [.obj [("string", .str "inc")]])]])], rfl, by cbv, ?_, by cbv⟩
  exact strip_application_fcn_ne none _ "u.inc"

end Node

end PfaScript
