import Mathlib
import PfaScript.Proofs.Derivation
import PfaScript.Proofs.TermShape
import PfaScript.Proofs.Transparency

/-!
# Compound assignments

**Theorem** (`Node.compound_eq_expansion`): `l += r` and `l = l + r` compile alike, and so do the
other three compound operators: both fail for the same cause, or both give the same term up to
markers, whatever the target is. `x++` and `x--` compile as `x += 1` and `x -= 1`.

On the right of a compound operator there can be no function. What is looked at is the term of the
right side, and not the right side: it is refused if it has the keys of a definition. **Theorem**
(`Node.compound_refused_iff`): this catches all functions that are defined on the spot, and
literals that look like one, but no function that is referred to by name.
-/

namespace PfaScript

open Json (Same SameItems SameFields)

/-! ### Operators -/

theorem isAssignmentOperator_of_compound {operator function : String}
    (h : compoundFunction? operator = some function) : isAssignmentOperator operator = true := by
  simp [isAssignmentOperator, h]

/-- What a compound operator applies is a binary operator of the same name. -/
theorem binaryFunction?_of_compound {operator function : String}
    (h : compoundFunction? operator = some function) :
    binaryFunction? function = some function ∧ function ≠ ">>" := by
  unfold compoundFunction? at h
  split at h <;> cases h <;> exact ⟨rfl, by decide⟩

/-- The four compound operators. -/
theorem compoundFunction?_append {function : String} (h : function ∈ ["+", "-", "*", "/"]) :
    compoundFunction? (function ++ "=") = some function := by
  simp only [List.mem_cons, List.not_mem_nil, or_false] at h
  rcases h with rfl | rfl | rfl | rfl <;> rfl

theorem assigned_plain (span : Option Span) (target value : Json) :
    assigned span "=" target value = .ok value := rfl

theorem assigned_compound {operator function : String}
    (h : compoundFunction? operator = some function) (span : Option Span) (target value : Json) :
    assigned span operator target value =
      if value.isFunctionDefinition then .error ⟨.functionUpdate operator, span⟩
      else .ok (application span function [target, value]) := by
  rw [assigned, h]

theorem set_same (name : String) {v w : Json} (h : Same v w) (span span' : Option Span) :
    Same (tagged span [("set", .obj [(name, v)])]) (tagged span' [("set", .obj [(name, w)])]) :=
  (SameFields.cons "set" (SameFields.cons name h .nil).obj .nil).tagged span span'

namespace Node

/-! ### Assignments -/

section assignment

variable {span place : Option Span} {operator : String}

theorem term_assignment_identifier (h : isAssignmentOperator operator = true) (name : String)
    (right : Node) :
    term (.assignment span operator (.identifier place name) right) = (do
      let value ← term right
      let stored ← assigned span operator (.str name) value
      return tagged span [("set", .obj [(name, stored)])]) := by
  simp only [term, h, Bool.not_true, Bool.false_eq_true, if_false]

theorem term_assignment_member (h : isAssignmentOperator operator = true)
    (base access right : Node) (computed : Bool) :
    term (.assignment span operator (.member place base access computed) right) = (do
      let (root, path) ← accesses place base access computed
      let value ← operand right
      let stored ← assigned span operator (.obj (attributeEntries place root path)) value
      return .obj ((attributeEntries place root path).insert "to" stored)) := by
  simp only [term, h, Bool.not_true, Bool.false_eq_true, if_false]

end assignment

/-- Whether a node is a function in a place where one can be given: defined on the spot or referred
to by name. -/
def isFunctionForm (node : Node) : Bool := node.isDefinition || node.functionReference?.isSome

theorem operand_of_not_isFunctionForm {node : Node} (h : node.isFunctionForm = false) :
    operand node = term node := by
  simp only [isFunctionForm, Bool.or_eq_false_iff, Option.isSome_eq_false_iff,
    Option.isNone_iff_eq_none] at h
  rw [operand, h.1, h.2]
  rfl

theorem operand_of_functionReference? {node : Node} {name : String}
    (h : node.functionReference? = some name) :
    operand node = .ok (tagged node.span [("fcn", .str name)]) := by
  obtain ⟨span, place, argument, rfl, -⟩ := functionReference?_some h
  rw [operand, h]
  rfl

/-- A binary operator other than the one of definitions is no function. -/
theorem binary_isFunctionForm {operator : String} (h : operator ≠ ">>") (span : Option Span)
    (left right : Node) : (Node.binary span operator left right).isFunctionForm = false := by
  simp [isFunctionForm, isDefinition, functionReference?, h]

theorem term_binary {operator function : String} (h : binaryFunction? operator = some function)
    (span : Option Span) (left right : Node) :
    term (.binary span operator left right) = (do
      let first ← term left
      let second ← term right
      return application span function [first, second]) := by
  simp only [term, h]

/-! ### The expansion of a compound assignment -/

section expansion

variable {operator function : String} {right : Node}

/-- Into a variable. -/
theorem compound_identifier_agree (hoperator : compoundFunction? operator = some function)
    (hright : ∀ value, term right = .ok value → value.isFunctionDefinition = false)
    (span span' inner place : Option Span) (name : String) :
    Agree Same (term (.assignment span operator (.identifier place name) right))
      (term (.assignment span' "=" (.identifier place name)
        (.binary inner function (.identifier place name) right))) := by
  rw [term_assignment_identifier (isAssignmentOperator_of_compound hoperator),
    term_assignment_identifier rfl, term_binary (binaryFunction?_of_compound hoperator).1, term]
  cases hvalue : term right with
  | error fault => exact .error rfl
  | ok value =>
      simp only [ok_bind, pure_eq_ok, assigned_plain, assigned_compound hoperator,
        hright value hvalue, Bool.false_eq_true, if_false]
      exact .ok (set_same name (application_same rfl span inner function) span span')

/-- Into a part of a value: the target is compiled once on the left, and twice on the right. -/
theorem compound_member_agree (hoperator : compoundFunction? operator = some function)
    (hform : right.isFunctionForm = false)
    (hright : ∀ value, term right = .ok value → value.isFunctionDefinition = false)
    (span span' inner place : Option Span) (base access : Node) (computed : Bool) :
    Agree Same (term (.assignment span operator (.member place base access computed) right))
      (term (.assignment span' "=" (.member place base access computed)
        (.binary inner function (.member place base access computed) right))) := by
  obtain ⟨hbinary, hne⟩ := binaryFunction?_of_compound hoperator
  rw [term_assignment_member (isAssignmentOperator_of_compound hoperator),
    term_assignment_member rfl, operand_of_not_isFunctionForm hform,
    operand_of_not_isFunctionForm (binary_isFunctionForm hne _ _ _), term_binary hbinary, term]
  cases accesses place base access computed with
  | error fault => exact .error rfl
  | ok target =>
      obtain ⟨root, path⟩ := target
      cases hvalue : term right with
      | error fault => exact .error rfl
      | ok value =>
          simp only [ok_bind, pure_eq_ok, assigned_plain, assigned_compound hoperator,
            hright value hvalue, Bool.false_eq_true, if_false]
          exact .ok (SameFields.insert rfl "to" (application_same rfl span inner function)).obj

/-- A compound assignment compiles as its expansion, if the right side is no function and does not
look like one. -/
theorem compound_agree (hoperator : compoundFunction? operator = some function)
    (hform : right.isFunctionForm = false)
    (hright : ∀ value, term right = .ok value → value.isFunctionDefinition = false)
    (span span' inner : Option Span) (left : Node) :
    Agree Same (term (.assignment span operator left right))
      (term (.assignment span' "=" left (.binary inner function left right))) := by
  cases left with
  | identifier place name => exact compound_identifier_agree hoperator hright _ _ _ place name
  | member place base access computed =>
      exact compound_member_agree hoperator hform hright _ _ _ place base access computed
  | _ =>
      simp only [term, isAssignmentOperator_of_compound hoperator]
      exact .error rfl

end expansion

/-- Whether a node is not a literal with parts. -/
def isWhole : Node → Bool
  | .literal _ _ value _ => value.isScalar
  | _ => true

/-- No term looks like the definition of a function, if no literal has parts. -/
theorem isFunctionDefinition_of_isWhole {node : Node} (h : ∀ m ∈ node.walk, m.isWhole = true)
    {value : Json} (hvalue : term node = .ok value) : value.isFunctionDefinition = false := by
  by_contra hdefinition
  rw [Bool.not_eq_false] at hdefinition
  obtain ⟨span, raw, pattern, rfl⟩ := literal_of_isFunctionDefinition hvalue hdefinition
  have hscalar : value.isScalar = true := h (.literal span raw value pattern) (by simp [walk])
  cases value with
  | obj fields => cases hscalar
  | _ => cases hdefinition

/-- **A compound assignment is its expansion.** For the operators `+`, `-`, `*` and `/`, every
target and every right side that is no function and has no literal with parts, `l op= r` and
`l = l op r` fail for the same cause, or give the same term up to markers. The terms of `x++` and
`x--` are those of `x += 1` and `x -= 1`. -/
theorem compound_eq_expansion :
    (∀ (span span' inner : Option Span) (operator : String) (left right : Node),
      operator ∈ ["+", "-", "*", "/"] → right.isFunctionForm = false →
      (∀ m ∈ right.walk, m.isWhole = true) →
      Agree Same (term (.assignment span (operator ++ "=") left right))
        (term (.assignment span' "=" left (.binary inner operator left right)))) ∧
    ∀ (span span' place place' inner : Option Span) (raw : Option Json) (operator name : String)
      (leading : Bool), operator ∈ ["+", "-"] →
      ∃ v w, term (.update span (operator ++ operator) (.identifier place name) leading) = .ok v ∧
        term (.assignment span' (operator ++ "=") (.identifier place' name)
          (.literal inner raw (.int 1) .null)) = .ok w ∧
        Same v w := by
  constructor
  · intro span span' inner operator left right hoperator hform hwhole
    exact compound_agree (compoundFunction?_append hoperator) hform
      (fun value => isFunctionDefinition_of_isWhole hwhole) span span' inner left
  · intro span span' place place' inner raw operator name leading hoperator
    have hupdate : updateFunction? (operator ++ operator) = some operator := by
      simp only [List.mem_cons, List.not_mem_nil, or_false] at hoperator
      rcases hoperator with rfl | rfl <;> rfl
    have hcompound : compoundFunction? (operator ++ "=") = some operator :=
      compoundFunction?_append (List.mem_append_left ["*", "/"] hoperator)
    have hstored : Same (application span operator [.str name, .int 1])
        (application span' operator [.str name, .int 1]) :=
      application_same rfl span span' operator
    refine ⟨_, _, ?_, ?_, set_same name hstored span span'⟩
    · rw [term, updated, hupdate]
      rfl
    · rw [term_assignment_identifier (isAssignmentOperator_of_compound hcompound), term_literal,
        if_neg (by decide), ok_bind, assigned_compound hcompound]
      rfl

/-- The target `box.rows[i]`, of which only the place of the whole is known. -/
def rowsPart : Node :=
  .member (some ⟨1, 0, 1, 11⟩)
    (.member none (.identifier none "box") (.identifier none "rows") false)
    (.identifier none "i") true

/-- The factor `f(i, 2)`. -/
def rowsFactor : Node :=
  .call none (.identifier none "f") [.identifier none "i", .literal none none (.int 2) .null]

theorem compound_eq_expansion_rowsPart :
    rowsFactor.isFunctionForm = false ∧ (∀ m ∈ rowsFactor.walk, m.isWhole = true) ∧
      Agree Same (term (.assignment none ("*" ++ "=") rowsPart rowsFactor))
        (term (.assignment none "=" rowsPart (.binary none "*" rowsPart rowsFactor))) := by
  have hform : rowsFactor.isFunctionForm = false := rfl
  have hwhole : ∀ m ∈ rowsFactor.walk, m.isWhole = true := by decide
  exact ⟨hform, hwhole,
    compound_eq_expansion.1 none none none "*" rowsPart rowsFactor (by decide) hform hwhole⟩

/-! ### Functions on the right of a compound operator -/

/-- What stands where a function can be given looks like a definition exactly if it is one, or is a
literal that does. -/
theorem isFunctionDefinition_operand_iff {node : Node} {v : Json} (h : operand node = .ok v) :
    v.isFunctionDefinition = true ↔ node.isDefinition = true ∨
      ∃ span raw pattern, node = .literal span raw v pattern ∧ v.isFunctionDefinition = true := by
  cases hdefinition : node.isDefinition with
  | true =>
      rw [operand, if_pos hdefinition] at h
      obtain ⟨span, place, params, inner, body, flags, type, given, ret, items, -, -, -, -, rfl⟩ :=
        definition_ok h
      simp [Entries.contains]
  | false =>
      rw [operand, hdefinition, if_neg Bool.false_ne_true] at h
      simp only [Bool.false_eq_true, false_or]
      constructor
      · intro hv
        cases hname : node.functionReference? with
        | some name =>
            simp only [hname, Except.ok.injEq] at h
            simp [← h, Entries.contains] at hv
        | none =>
            rw [hname] at h
            obtain ⟨span, raw, pattern, rfl⟩ := literal_of_isFunctionDefinition h hv
            exact ⟨span, raw, pattern, rfl, hv⟩
      · rintro ⟨span, raw, pattern, -, hv⟩
        exact hv

section function

variable {span place : Option Span} {operator : String} {base access right : Node}
  {computed : Bool} {target : Entries String Json} {v : Json}

/-- A compound assignment to a part of a value, once both sides are compiled. -/
theorem term_compound_member (hoperator : operator ∈ ["+", "-", "*", "/"])
    (htarget : term (.member place base access computed) = .ok (.obj target))
    (hright : operand right = .ok v) :
    term (.assignment span (operator ++ "=") (.member place base access computed) right) =
      if v.isFunctionDefinition then .error ⟨.functionUpdate (operator ++ "="), span⟩
      else .ok (.obj (target.insert "to" (application span operator [.obj target, v]))) := by
  have hcompound := compoundFunction?_append hoperator
  obtain ⟨root, path, haccesses, heq⟩ := member_ok htarget
  cases heq
  rw [term_assignment_member (isAssignmentOperator_of_compound hcompound), haccesses, hright]
  simp only [ok_bind, assigned_compound hcompound]
  split <;> rfl

/-- **Compound operators refuse definitions, and no references.** Let the target be a part of a
value that compiles, and let the right side compile where a function can be given. Then a compound
assignment fails as one of an invalid form exactly if the right side defines a function on the spot,
or is a literal that looks like a definition. A function that is referred to by name is combined
with the target like any other value. -/
theorem compound_refused_iff (hoperator : operator ∈ ["+", "-", "*", "/"])
    (htarget : term (.member place base access computed) = .ok (.obj target))
    (hright : operand right = .ok v) :
    ((∃ fault, term (.assignment span (operator ++ "=") (.member place base access computed)
        right) = .error fault ∧ fault.cause.kind = .invalidAssignmentForm) ↔
      right.isDefinition = true ∨ ∃ inner raw pattern, right = .literal inner raw v pattern ∧
        v.isFunctionDefinition = true) ∧
    ∀ name, right.functionReference? = some name →
      term (.assignment span (operator ++ "=") (.member place base access computed) right) =
        .ok (.obj (target.insert "to" (application span operator
          [.obj target, tagged right.span [("fcn", .str name)]]))) := by
  rw [← isFunctionDefinition_operand_iff hright, term_compound_member hoperator htarget hright]
  refine ⟨?_, fun name hname => ?_⟩
  · cases v.isFunctionDefinition with
    | true => exact iff_of_true ⟨_, rfl, rfl⟩ rfl
    | false =>
        refine iff_of_false ?_ Bool.false_ne_true
        rintro ⟨fault, hfault, -⟩
        cases hfault
  · rw [operand_of_functionReference? hname] at hright
    cases hright
    rw [isFunctionDefinition_tagged]
    rfl

end function

/-- The definition `function(v = "int") { v; } >> "int"`. -/
def sameFunction : Node :=
  .binary none ">>"
    (.function none [⟨.identifier none "v", some (.literal none none (.str "int") .null)⟩]
      (.block none [.expressionStatement none (.identifier none "v")]) none none
      ⟨false, false, false⟩)
    (.literal none none (.str "int") .null)

/-- What `sameFunction` is compiled to. -/
def sameFunctionTerm : Json :=
  .obj [("params", .arr [.obj [("v", .str "int")]]), ("ret", .str "int"), ("do", .arr [.str "v"])]

/-- What `rec.x` is compiled to. -/
def recPart : Entries String Json :=
  [("attr", .str "rec"), ("path", .arr [.obj [("string", .str "x")]])]

theorem compound_refused_iff_sameFunction :
    operand sameFunction = .ok sameFunctionTerm ∧
      ∃ fault, term (.assignment none ("+" ++ "=")
        (.member none (.identifier none "rec") (.identifier none "x") false) sameFunction) =
          .error fault ∧ fault.cause.kind = .invalidAssignmentForm := by
  have htarget : term (.member none (.identifier none "rec") (.identifier none "x") false) =
      .ok (.obj recPart) := by cbv
  have hright : operand sameFunction = .ok sameFunctionTerm := by cbv
  exact ⟨hright, (compound_refused_iff (by decide) htarget hright).1.mpr (.inl rfl)⟩

/-- A function that is referred to by name is not refused: `rec.x += fcn("u.inc")` compiles. -/
theorem reference_combined :
    ∃ right : Node, right.isFunctionForm = true ∧ (∃ v, operand right = .ok v) ∧
      (∃ target, term (.member none (.identifier none "rec") (.identifier none "x") false) =
        .ok target) ∧
      ∃ w, term (.assignment none "+=" (.member none (.identifier none "rec")
        (.identifier none "x") false) right) = .ok w :=
  ⟨.call none (.identifier none "fcn") [.literal none none (.str "u.inc") .null], rfl,
    ⟨.obj [("fcn", .str "u.inc")], by cbv⟩, ⟨.obj recPart, by cbv⟩,
    ⟨.obj (recPart ++ [("to", .obj [("+", .arr [.obj recPart, .obj [("fcn", .str "u.inc")]])])]),
      by cbv⟩⟩

end Node

end PfaScript
