import Mathlib
import PfaScript.Proofs.Order

/-!
# The first fault is reported

**Theorem** (`Program.first_fault_wins`): a script that does not compile is refused with the fault
of its first faulty statement, whatever follows that statement. If no statement is faulty, the fault
is the first required field that no statement assigns; and if there is no such field either, the
script compiles.

What makes a statement faulty is said by `Document.FaultAfter`, in terms of the statement and of
those before it. The compiler looks at the document made so far instead. The two are the same as
long as nothing was refused, since that document has exactly the fields that the statements before
have assigned (`Document.contains_of_gathered`).
-/

namespace PfaScript

namespace Document

/-! ### Faulty statements -/

/-- One of the statements assigns the field with this key. -/
def Assigns (statements : List Node) (key : String) : Prop :=
  ∃ statement ∈ statements, ∃ node, assignment? statement = some (key, node)

/-- What is wrong with a statement that stands after the `earlier` ones. The four faults exclude
each other: each is looked for only where those listed before it are not found. -/
inductive FaultAfter (earlier : List Node) (statement : Node) : Fault → Prop
  /-- It is not of the form `name = value`. -/
  | notAnAssignment (hassigned : assignment? statement = none) :
    FaultAfter earlier statement ⟨.topLevel, statement.span⟩
  /-- Documents have no such field. -/
  | unknown {key : String} {node : Node} (hassigned : assignment? statement = some (key, node))
    (hfield : Field.ofKey? key = none) :
    FaultAfter earlier statement ⟨.unknownField key, statement.span⟩
  /-- An earlier statement assigns the same field. -/
  | repeated {key : String} {node : Node} {field : Field}
    (hassigned : assignment? statement = some (key, node)) (hfield : Field.ofKey? key = some field)
    (hearlier : Assigns earlier key) :
    FaultAfter earlier statement ⟨.repeatedField key, statement.span⟩
  /-- The field cannot have this value. -/
  | value {key : String} {node : Node} {field : Field} {fault : Fault}
    (hassigned : assignment? statement = some (key, node)) (hfield : Field.ofKey? key = some field)
    (hnew : ¬ Assigns earlier key) (hvalue : value field node = .error fault) :
    FaultAfter earlier statement fault

/-- No statement of the list is faulty. -/
def Faultless (statements : List Node) : Prop :=
  ∀ before statement after, statements = before ++ statement :: after →
    ∀ fault, ¬ FaultAfter before statement fault

/-! ### Gathering fields -/

variable {document : Entries String Json} {statements before : List Node} {statement : Node}
  {fault : Fault}

/-- The document made of some statements has the fields that these assign. -/
theorem contains_of_gathered (h : statements.foldlM extend [] = .ok document) (key : String) :
    document.contains key = true ↔ Assigns statements key := by
  obtain ⟨added, hadds, heq, -⟩ := (gathered_ok_iff (by simp)).mp h
  rw [List.nil_append] at heq
  subst heq
  rw [Entries.contains_iff, hadds.keys_eq, List.mem_filterMap]
  constructor
  · rintro ⟨statement, hstatement, hkey⟩
    obtain ⟨⟨found, node⟩, hassigned, rfl⟩ := Option.map_eq_some_iff.mp hkey
    exact ⟨statement, hstatement, node, hassigned⟩
  · rintro ⟨statement, hstatement, node, hassigned⟩
    exact ⟨statement, hstatement, by rw [hassigned]; rfl⟩

/-- A statement is refused exactly if it is faulty after those that the document is made of. -/
theorem entry_eq_error_iff (h : before.foldlM extend [] = .ok document) :
    entry document statement = .error fault ↔ FaultAfter before statement fault := by
  have hseen := contains_of_gathered h
  constructor
  · intro hentry
    unfold entry at hentry
    cases hassigned : assignment? statement with
    | none =>
        simp only [hassigned, Except.error.injEq] at hentry
        rw [← hentry]
        exact .notAnAssignment hassigned
    | some assigned =>
        obtain ⟨key, node⟩ := assigned
        cases hfield : Field.ofKey? key with
        | none =>
            simp only [hassigned, hfield, Except.error.injEq] at hentry
            rw [← hentry]
            exact .unknown hassigned hfield
        | some field =>
            simp only [hassigned, hfield] at hentry
            by_cases hcontains : document.contains key = true
            · rw [if_pos hcontains, Except.error.injEq] at hentry
              rw [← hentry]
              exact .repeated hassigned hfield ((hseen key).mp hcontains)
            · rw [if_neg hcontains, bind_eq_error_iff] at hentry
              have hnew : ¬ Assigns before key := fun hkey => hcontains ((hseen key).mpr hkey)
              rcases hentry with hvalue | ⟨v, -, hentry⟩
              · exact .value hassigned hfield hnew hvalue
              · cases hentry
  · intro hfault
    unfold entry
    cases hfault with
    | notAnAssignment hassigned => simp only [hassigned]
    | unknown hassigned hfield => simp only [hassigned, hfield]
    | repeated hassigned hfield hearlier =>
        simp only [hassigned, hfield, (hseen _).mpr hearlier, if_true]
    | value hassigned hfield hnew hvalue =>
        have hcontains : ¬ document.contains _ = true := fun hkey => hnew ((hseen _).mp hkey)
        simp only [hassigned, hfield, if_neg hcontains, hvalue, error_bind]

/-! ### The first faulty statement -/

/-- Statements are gathered exactly if none of them is faulty. -/
theorem exists_gathered_iff :
    (∃ document, statements.foldlM extend [] = .ok document) ↔ Faultless statements := by
  constructor
  · rintro ⟨document, h⟩ before statement after rfl fault hfault
    rw [List.foldlM_append, bind_eq_ok_iff] at h
    obtain ⟨made, hmade, h⟩ := h
    rw [List.foldlM_cons, extend_eq_error_iff.mpr ((entry_eq_error_iff hmade).mpr hfault)] at h
    cases h
  · intro hfaultless
    cases h : statements.foldlM extend [] with
    | ok document => exact ⟨document, rfl⟩
    | error fault =>
        obtain ⟨before, statement, after, made, hsplit, hmade, hfails⟩ :=
          foldlM_eq_error_iff.mp h
        have hfault := (entry_eq_error_iff hmade).mp (extend_eq_error_iff.mp hfails)
        exact absurd hfault (hfaultless before statement after hsplit fault)

/-- Gathering stops at the first faulty statement. -/
theorem gathered_eq_error_iff :
    statements.foldlM extend [] = .error fault ↔
      ∃ before statement after, statements = before ++ statement :: after ∧
        Faultless before ∧ FaultAfter before statement fault := by
  rw [foldlM_eq_error_iff]
  constructor
  · rintro ⟨before, statement, after, made, hsplit, hmade, hfails⟩
    refine ⟨before, statement, after, hsplit, exists_gathered_iff.mp ⟨made, hmade⟩, ?_⟩
    exact (entry_eq_error_iff hmade).mp (extend_eq_error_iff.mp hfails)
  · rintro ⟨before, statement, after, hsplit, hfaultless, hfault⟩
    obtain ⟨made, hmade⟩ := exists_gathered_iff.mpr hfaultless
    refine ⟨before, statement, after, made, hsplit, hmade, ?_⟩
    exact extend_eq_error_iff.mpr ((entry_eq_error_iff hmade).mpr hfault)

/-! ### Missing fields -/

/-- The first required field that no statement assigns. -/
def FirstMissing (statements : List Node) (field : Field) : Prop :=
  ∃ before after, Field.required = before ++ field :: after ∧
    (∀ other ∈ before, Assigns statements other.key) ∧ ¬ Assigns statements field.key

theorem incomplete?_eq_some_iff (h : statements.foldlM extend [] = .ok document) :
    incomplete? document = some fault ↔
      ∃ field, FirstMissing statements field ∧ fault = ⟨.missingField field.key, none⟩ := by
  have hseen (field : Field) :
      (!document.contains field.key) = true ↔ ¬ Assigns statements field.key := by
    rw [← contains_of_gathered h, Bool.not_eq_true', Bool.not_eq_true]
  have hfirst (field : Field) : Field.required.find? (!document.contains ·.key) = some field ↔
      FirstMissing statements field := by
    rw [List.find?_eq_some_iff_append, hseen]
    constructor
    · rintro ⟨hmissing, before, after, hsplit, hbefore⟩
      refine ⟨before, after, hsplit, fun other hother => ?_, hmissing⟩
      have hnot := hbefore other hother
      rw [← contains_of_gathered h]
      simpa using hnot
    · rintro ⟨before, after, hsplit, hbefore, hmissing⟩
      refine ⟨hmissing, before, after, hsplit, fun other hother => ?_⟩
      have hcontains := (contains_of_gathered h other.key).mpr (hbefore other hother)
      rw [hcontains]
      rfl
  unfold incomplete?
  rw [Option.map_eq_some_iff]
  constructor
  · rintro ⟨field, hfield, rfl⟩
    exact ⟨field, (hfirst field).mp hfield, rfl⟩
  · rintro ⟨field, hfield, rfl⟩
    exact ⟨field, (hfirst field).mpr hfield, rfl⟩

theorem incomplete?_eq_none_iff (h : statements.foldlM extend [] = .ok document) :
    incomplete? document = none ↔ ∀ field ∈ Field.required, Assigns statements field.key := by
  unfold incomplete?
  rw [Option.map_eq_none_iff, List.find?_eq_none]
  simp only [← contains_of_gathered h, Bool.not_eq_true', Bool.not_eq_false]

end Document

namespace Program

open Document (Assigns FaultAfter Faultless FirstMissing)

/-- A script stops at its first faulty statement. -/
theorem compile_eq_error_of_faultAfter {program : Program} {before after : List Node}
    {statement : Node} {fault : Fault} (hsplit : program.body = before ++ statement :: after)
    (hfaultless : Faultless before) (hfault : FaultAfter before statement fault) :
    program.compile = .error fault := by
  refine compile_eq_error_iff.mpr (.inl ?_)
  exact Document.gathered_eq_error_iff.mpr ⟨before, statement, after, hsplit, hfaultless, hfault⟩

/-- **The first fault wins.** A script is refused with a given fault exactly if that is the fault of
the first faulty statement, or no statement is faulty and the fault names the first required field
that none of them assigns. The statements after a faulty one change nothing. A script compiles
exactly if no statement is faulty and every required field is assigned. -/
theorem first_fault_wins (program : Program) :
    (∀ fault, program.compile = .error fault ↔
      (∃ before statement after, program.body = before ++ statement :: after ∧
        Faultless before ∧ FaultAfter before statement fault) ∨
      (Faultless program.body ∧ ∃ field, FirstMissing program.body field ∧
        fault = ⟨.missingField field.key, none⟩)) ∧
    (∀ before statement after fault, program.body = before ++ statement :: after →
      Faultless before → FaultAfter before statement fault →
      ∀ others, { program with body := before ++ statement :: others }.compile = program.compile) ∧
    ((∃ document, program.compile = .ok document) ↔
      Faultless program.body ∧ ∀ field ∈ Field.required, Assigns program.body field.key) := by
  refine ⟨fun fault => ?_, ?_, ?_⟩
  · rw [compile_eq_error_iff, Document.gathered_eq_error_iff]
    refine or_congr_right ?_
    rw [← Document.exists_gathered_iff]
    constructor
    · rintro ⟨document, hdocument, hfault⟩
      exact ⟨⟨document, hdocument⟩, (Document.incomplete?_eq_some_iff hdocument).mp hfault⟩
    · rintro ⟨⟨document, hdocument⟩, hmissing⟩
      exact ⟨document, hdocument, (Document.incomplete?_eq_some_iff hdocument).mpr hmissing⟩
  · intro before statement after fault hsplit hfaultless hfault others
    rw [compile_eq_error_of_faultAfter hsplit hfaultless hfault]
    exact compile_eq_error_of_faultAfter rfl hfaultless hfault
  · rw [← Document.exists_gathered_iff]
    constructor
    · rintro ⟨document, hdocument⟩
      obtain ⟨hmade, hcomplete⟩ := compile_eq_ok_iff.mp hdocument
      exact ⟨⟨document, hmade⟩, (Document.incomplete?_eq_none_iff hmade).mp hcomplete⟩
    · rintro ⟨⟨document, hdocument⟩, hrequired⟩
      have hcomplete := (Document.incomplete?_eq_none_iff hdocument).mpr hrequired
      exact ⟨document, compile_eq_ok_iff.mpr ⟨hdocument, hcomplete⟩⟩

/-- The statement `input = "int";`. -/
def givenInput : Node :=
  .expressionStatement none (.assignment none "=" (.identifier none "input")
    (.literal none none (.str "int") .null))

/-- The statement `input = /x/;`, whose value is not allowed either. -/
def givenAgain : Node :=
  .expressionStatement none (.assignment none "=" (.identifier none "input")
    (.literal none none .null (.str "x")))

/-- That a field is given twice is found before its second value is looked at, and what follows is
not looked at either. -/
theorem first_fault_wins_givenAgain :
    (⟨none, [givenInput, givenAgain]⟩ : Program).compile = .error ⟨.repeatedField "input", none⟩ ∧
      ∀ others, (⟨none, [givenInput] ++ givenAgain :: others⟩ : Program).compile =
        (⟨none, [givenInput, givenAgain]⟩ : Program).compile := by
  have hfaultless : Faultless [givenInput] :=
    Document.exists_gathered_iff.mp ⟨[("input", .str "int")], by cbv⟩
  have hfault : FaultAfter [givenInput] givenAgain ⟨.repeatedField "input", none⟩ :=
    .repeated rfl rfl ⟨givenInput, List.mem_singleton.mpr rfl, _, rfl⟩
  have hwins := first_fault_wins ⟨none, [givenInput, givenAgain]⟩
  refine ⟨(hwins.1 _).mpr (.inl ⟨_, _, [], rfl, hfaultless, hfault⟩), ?_⟩
  exact hwins.2.1 [givenInput] givenAgain [] _ rfl hfaultless hfault

end Program

end PfaScript
