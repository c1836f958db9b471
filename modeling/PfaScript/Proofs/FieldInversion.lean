import PfaScript.Compile.Document
import PfaScript.Proofs.Inversion

/-!
# What a compiled document was made of

For each field, what follows from the fact that its value compiles. A script gives a document only
if each of its statements adds an entry (`Document.exists_entry_of_gathered`), and what each added
entry keeps holds of the whole document (`Document.gathered_induction`).
-/

namespace PfaScript

/-! ### Slots -/

namespace Slot

variable {store : Store} {name : String} {node : Node} {v : Json}

theorem setting_ok {key : String} (h : setting store name key node = .ok v) :
    key ∈ keys ∧ node.constant = .ok v ∧ (key ∈ flags → isFlag v = true) := by
  unfold setting at h
  split at h
  · cases h
  next hkey =>
    obtain ⟨constant, hconstant, h⟩ := bind_eq_ok_iff.mp h
    split at h
    · cases h
    next hflag =>
      cases h
      refine ⟨by simpa using hkey, hconstant, fun hmem => ?_⟩
      simpa [hmem] using hflag

theorem declaration_ok (h : declaration store name node = .ok v) :
    ∃ span properties given, node = .object span properties ∧
      entriesWith (setting store name) properties = .ok given ∧
      (∀ key ∈ required store, (Entries.ofList given).contains key = true) ∧
      v = tagged span (Entries.ofList given) := by
  unfold declaration at h
  split at h
  next span properties =>
    rw [bind_eq_ok_iff] at h
    obtain ⟨given, hgiven, h⟩ := h
    dsimp only at h
    split at h
    · cases h
    next hfind =>
      cases h
      refine ⟨span, properties, given, rfl, hgiven, fun key hkey => ?_, rfl⟩
      simpa using List.find?_eq_none.mp hfind key hkey
  next => cases h

end Slot

theorem Node.slots_ok {store : Store} {node : Node} {v : Json} (h : node.slots store = .ok v) :
    ∃ span properties declared, node = .object span properties ∧
      entriesWith (Slot.declaration store) properties = .ok declared ∧
      v = tagged span (Entries.ofList declared) := by
  cases node with
  | object span properties =>
      simp only [slots, bind_eq_ok_iff] at h
      obtain ⟨declared, hdeclared, h⟩ := h
      cases h
      exact ⟨span, properties, declared, rfl, hdeclared, rfl⟩
  | _ => simp [slots] at h

/-! ### Fields and documents -/

namespace Document

variable {field : Field} {node : Node} {v : Json}

theorem plainFunction_ok {params : List (Param Node)} {body : List Node}
    (h : plainFunction field node = .ok (params, body)) :
    ∃ span inner flags, node = .function span params (.block inner body) none none flags := by
  unfold plainFunction at h
  split at h
  · split at h
    next hplain =>
      obtain ⟨rfl, rfl⟩ := Node.isPlainFunction_iff hplain
      cases h
      exact ⟨_, _, _, rfl⟩
    next => cases h
  · cases h

/-- A number is a literal or a negated one. -/
theorem constantNumber?_some {number : Json} (h : constantNumber? node = some number) :
    (∃ span raw pattern, node = .literal span raw number pattern) ∨
      ∃ span operator argument leading, node = .unary span operator argument leading ∧
        negatedLiteral? operator argument = some number := by
  unfold constantNumber? at h
  split at h
  · cases h
    exact .inl ⟨_, _, _, rfl⟩
  · cases h
    exact .inl ⟨_, _, _, rfl⟩
  · exact .inr ⟨_, _, _, _, rfl, h⟩
  · cases h

/-- An integer is a number that is whole. -/
theorem constantInteger?_some {n : Int} (h : constantInteger? node = some n) :
    ∃ number, constantNumber? node = some number ∧
      (number = .int n ∨ ∃ x, number = .float x ∧ x.toInt? = some n) := by
  unfold constantInteger? at h
  split at h
  next hnumber =>
    cases h
    exact ⟨_, hnumber, .inl rfl⟩
  next hnumber => exact ⟨_, hnumber, .inr ⟨_, rfl, h⟩⟩
  next => cases h

theorem value_method_ok (h : value .method node = .ok v) :
    ∃ name, v = .str name ∧ (node.text? = some name ∨ ∃ span, node = .identifier span name) := by
  simp only [value] at h
  split at h
  next htext =>
    cases h
    exact ⟨_, rfl, .inl htext⟩
  next =>
    cases h
    exact ⟨_, rfl, .inr ⟨_, rfl⟩⟩
  next => cases h

theorem value_text_ok (hfield : field = .name ∨ field = .doc) (h : value field node = .ok v) :
    ∃ text, node.text? = some text ∧ v = .str text := by
  cases htext : node.text? with
  | none => rcases hfield with rfl | rfl <;> simp [value, htext] at h
  | some text =>
      rcases hfield with rfl | rfl <;>
      · simp only [value, htext, Except.ok.injEq] at h
        exact ⟨text, rfl, h.symm⟩

/-- The fields `begin` and `end` are compiled in the same way. -/
theorem value_begin_eq (hfield : field = .begin ∨ field = .end) :
    value field node = (do
      let parts ← plainFunction field node
      if !parts.1.isEmpty then .error ⟨.fieldParameters field.key, node.span⟩
      else return .arr (← Node.statements parts.2)) := by
  rcases hfield with rfl | rfl <;> rfl

theorem value_begin_ok (hfield : field = .begin ∨ field = .end) (h : value field node = .ok v) :
    ∃ body items, plainFunction field node = .ok ([], body) ∧
      Node.statements body = .ok items ∧ v = .arr items := by
  rw [value_begin_eq hfield] at h
  simp only [bind_eq_ok_iff] at h
  obtain ⟨⟨params, body⟩, hplain, h⟩ := h
  cases params with
  | cons param rest => cases h
  | nil =>
      simp only [List.isEmpty_nil, Bool.not_true, Bool.false_eq_true, if_false,
        bind_eq_ok_iff] at h
      obtain ⟨items, hitems, h⟩ := h
      cases h
      exact ⟨body, items, hplain, hitems, rfl⟩

theorem value_action_ok (h : value .action node = .ok v) :
    ∃ params body names items, plainFunction .action node = .ok (params, body) ∧
      actionParameters [] params = .ok names ∧ "input" ∈ names ∧
      Node.statements body = .ok items ∧ v = .arr items := by
  simp only [value, bind_eq_ok_iff] at h
  obtain ⟨⟨params, body⟩, hplain, names, hnames, h⟩ := h
  by_cases hinput : "input" ∈ names
  · simp only [hinput, not_true_eq_false, if_false, bind_eq_ok_iff] at h
    obtain ⟨items, hitems, h⟩ := h
    cases h
    exact ⟨params, body, names, items, hplain, hnames, hinput, hitems, rfl⟩
  · simp [hinput] at h

theorem value_fcns_ok (h : value .fcns node = .ok v) :
    ∃ span properties defined, node = .object span properties ∧
      entriesWith (fun _ => Node.definition) properties = .ok defined ∧
      v = tagged span (Entries.ofList defined) := by
  cases node with
  | object span properties =>
      simp only [value, bind_eq_ok_iff] at h
      obtain ⟨defined, hdefined, h⟩ := h
      cases h
      exact ⟨span, properties, defined, rfl, hdefined, rfl⟩
  | _ => simp [value] at h

theorem value_options_ok (h : value .options node = .ok v) :
    ∃ span properties given, node = .object span properties ∧
      Node.constantEntries properties = .ok given ∧ v = tagged span (Entries.ofList given) := by
  cases node with
  | object span properties =>
      simp only [value, bind_eq_ok_iff] at h
      obtain ⟨given, hgiven, h⟩ := h
      cases h
      exact ⟨span, properties, given, rfl, hgiven, rfl⟩
  | _ => simp [value] at h

theorem value_randseed_ok (h : value .randseed node = .ok v) :
    ∃ n, constantInteger? node = some n ∧ v = .int n := by
  simp only [value] at h
  cases hn : constantInteger? node with
  | none => simp [hn] at h
  | some n =>
      simp only [hn, Except.ok.injEq] at h
      exact ⟨n, rfl, h.symm⟩

theorem assignment?_some {statement : Node} {key : String}
    (h : assignment? statement = some (key, node)) :
    ∃ span place target, statement =
      .expressionStatement span (.assignment place "=" (.identifier target key) node) := by
  unfold assignment? at h
  split at h
  · cases h
    exact ⟨_, _, _, rfl⟩
  · cases h

theorem entry_ok {document : Entries String Json} {statement : Node} {key : String}
    (h : entry document statement = .ok (key, v)) :
    ∃ field node, assignment? statement = some (key, node) ∧ Field.ofKey? key = some field ∧
      document.contains key = false ∧ value field node = .ok v := by
  unfold entry at h
  split at h
  · cases h
  next written node hassigned =>
    split at h
    · cases h
    next field hfield =>
      split at h
      · cases h
      next hseen =>
        obtain ⟨value, hvalue, h⟩ := bind_eq_ok_iff.mp h
        cases h
        exact ⟨field, node, hassigned, hfield, Bool.eq_false_iff.mpr hseen, hvalue⟩

/-- A document is extended by the entry that a statement adds to it. -/
theorem extend_ok_iff {document result : Entries String Json} {statement : Node} :
    extend document statement = .ok result ↔
      ∃ key v, entry document statement = .ok (key, v) ∧ result = document ++ [(key, v)] := by
  unfold extend
  rw [bind_eq_ok_iff, Prod.exists]
  simp only [pure_eq_ok, Except.ok.injEq, eq_comm]

theorem extend_eq_error_iff {document : Entries String Json} {statement : Node} {fault : Fault} :
    extend document statement = .error fault ↔ entry document statement = .error fault := by
  unfold extend
  cases entry document statement <;> simp

/-- An invariant of documents that every added entry keeps holds of the whole document. -/
theorem gathered_induction {P : Entries String Json → Prop}
    {document result : Entries String Json} {statements : List Node}
    (h : statements.foldlM extend document = .ok result) (hP : P document)
    (hentry : ∀ d key v, ∀ statement ∈ statements, P d → entry d statement = .ok (key, v) →
      P (d ++ [(key, v)])) : P result := by
  induction statements generalizing document with
  | nil =>
      cases h
      exact hP
  | cons statement rest ih =>
      rw [List.foldlM_cons, bind_eq_ok_iff] at h
      obtain ⟨next, hnext, h⟩ := h
      obtain ⟨key, v, hadded, rfl⟩ := extend_ok_iff.mp hnext
      refine ih h (hentry document key v statement List.mem_cons_self hP hadded) ?_
      intro d key v other hother hd hadded
      exact hentry d key v other (List.mem_cons_of_mem _ hother) hd hadded

/-- Every statement of a document that is gathered without a fault adds an entry. -/
theorem exists_entry_of_gathered {document result : Entries String Json}
    {statements : List Node} (h : statements.foldlM extend document = .ok result) :
    ∀ statement ∈ statements, ∃ d key v, entry d statement = .ok (key, v) := by
  induction statements generalizing document with
  | nil => simp
  | cons statement rest ih =>
      rw [List.foldlM_cons, bind_eq_ok_iff] at h
      obtain ⟨next, hnext, h⟩ := h
      obtain ⟨key, v, hadded, -⟩ := extend_ok_iff.mp hnext
      exact List.forall_mem_cons.mpr ⟨⟨document, key, v, hadded⟩, ih h⟩

end Document

theorem Program.compile_eq_ok_iff {program : Program} {document : Entries String Json} :
    program.compile = .ok document ↔
      program.body.foldlM Document.extend [] = .ok document ∧
        Document.incomplete? document = none := by
  unfold compile
  rw [bind_eq_ok_iff]
  constructor
  · rintro ⟨made, hmade, h⟩
    split at h
    · cases h
    next hincomplete =>
      cases h
      exact ⟨hmade, hincomplete⟩
  · rintro ⟨hmade, hincomplete⟩
    exact ⟨document, hmade, by rw [hincomplete]; rfl⟩

theorem Program.compile_eq_error_iff {program : Program} {fault : Fault} :
    program.compile = .error fault ↔
      program.body.foldlM Document.extend [] = .error fault ∨
        ∃ document, program.body.foldlM Document.extend [] = .ok document ∧
          Document.incomplete? document = some fault := by
  unfold compile
  rw [bind_eq_error_iff]
  refine or_congr_right (exists_congr fun document => and_congr_right fun _ => ?_)
  cases Document.incomplete? document <;> simp

theorem Program.document_ok_iff {program : Program} {withLocations : Bool}
    {document : Entries String Json} :
    program.document withLocations = .ok document ↔
      ∃ whole, program.compile = .ok whole ∧
        document = if withLocations then whole else Json.stripFields whole := by
  unfold Program.document
  rw [bind_eq_ok_iff]
  constructor
  · rintro ⟨whole, hwhole, h⟩
    cases h
    exact ⟨whole, hwhole, rfl⟩
  · rintro ⟨whole, hwhole, rfl⟩
    exact ⟨whole, hwhole, rfl⟩

end PfaScript
