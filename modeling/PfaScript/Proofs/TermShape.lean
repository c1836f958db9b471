import PfaScript.Proofs.Equation
import PfaScript.Proofs.Marker

/-!
# Terms that are null and terms that define functions

A literal stands for its own value, whatever that is. The term of every other expression is a name
or an object, and no such object has both keys by which definitions of functions are known
(`Node.literal_or_ordinary`). So an expression has null for a term exactly if it is the literal
`null` (`Node.isNull_term`), and a term that passes for a definition of a function is the value of a
literal (`Node.literal_of_isFunctionDefinition`).
-/

namespace PfaScript

/-! ### Objects that pass for definitions -/

/-- Tagging adds no key but that of markers. -/
theorem contains_taggedEntries {key : String} (h : key ≠ markerKey) (span : Option Span)
    (entries : Entries String Json) :
    (taggedEntries span entries).contains key = entries.contains key := by
  have hmarker : key ∉ Entries.keys (marker span) := by
    cases span with
    | none => simp [marker]
    | some place => simpa [marker] using h
  rw [Bool.eq_iff_iff, Entries.contains_iff, Entries.contains_iff, taggedEntries,
    Entries.mem_keys_update]
  exact or_iff_right hmarker

/-- Whether an object passes for a definition does not depend on its marker. -/
@[simp] theorem isFunctionDefinition_tagged (span : Option Span) (entries : Entries String Json) :
    (tagged span entries).isFunctionDefinition =
      (entries.contains "params" && entries.contains "ret") := by
  rw [tagged, Json.isFunctionDefinition, contains_taggedEntries (by decide),
    contains_taggedEntries (by decide)]

/-- Entries without the key of results do not make a definition. -/
theorem not_definition_of_ret {entries : Entries String Json} (h : "ret" ∉ Entries.keys entries) :
    (entries.contains "params" && entries.contains "ret") = false := by
  rw [Bool.and_eq_false_iff, ← Bool.not_eq_true, ← Bool.not_eq_true, Entries.contains_iff,
    Entries.contains_iff]
  exact .inr h

/-- One entry does not make a definition. -/
theorem isFunctionDefinition_application (span : Option Span) (name : String)
    (arguments : List Json) : (application span name arguments).isFunctionDefinition = false := by
  rw [application, isFunctionDefinition_tagged]
  by_cases hname : name = "params"
  · subst hname
    rfl
  · simp [Entries.contains, hname]

/-- Storing a value at the end of a path does not make a definition. -/
theorem isFunctionDefinition_insert_to (span : Option Span) (root stored : Json)
    (path : List Json) :
    (Json.obj ((attributeEntries span root path).insert "to" stored)).isFunctionDefinition =
      false := by
  refine not_definition_of_ret ?_
  rw [Entries.mem_keys_insert, ← Entries.contains_iff, attributeEntries,
    contains_taggedEntries (by decide)]
  simp [Entries.contains]

/-- A value that is neither null nor passes for the definition of a function. -/
structure Json.IsOrdinary (v : Json) : Prop where
  isNull : v.isNull = false
  isFunctionDefinition : v.isFunctionDefinition = false

theorem tagged_isOrdinary {span : Option Span} {entries : Entries String Json}
    (h : (entries.contains "params" && entries.contains "ret") = false) :
    (tagged span entries).IsOrdinary :=
  ⟨rfl, by rw [isFunctionDefinition_tagged, h]⟩

theorem application_isOrdinary (span : Option Span) (name : String) (arguments : List Json) :
    (application span name arguments).IsOrdinary :=
  ⟨rfl, isFunctionDefinition_application span name arguments⟩

namespace Node

variable {span : Option Span} {node : Node} {v : Json}

/-! ### Terms of expressions -/

theorem statePath_yields (store : Store) (nodes : List Node) :
    Yields (fun fields => "ret" ∉ Entries.keys fields) (statePath store nodes) := by
  rcases nodes with _ | ⟨node, rest⟩
  · rw [statePath]
    exact .ok (by simp)
  cases node with
  | array span elements =>
      rw [statePath]
      split
      · exact .error
      · exact .seq fun _ => .ok (by simp)
  | _ =>
      simp only [statePath]
      exact .error

theorem stateChanges_yields (nodes : List Node) :
    Yields (fun fields => "ret" ∉ Entries.keys fields) (stateChanges nodes) := by
  rcases nodes with _ | ⟨path, _ | ⟨value, _ | ⟨initial, _ | ⟨further, rest⟩⟩⟩⟩
  case cons.cons.cons.nil =>
    rw [stateChanges]
    exact .seq fun _ => .seq fun _ => .ok (by simp)
  case nil | cons.nil =>
    simp only [stateChanges]
    exact .ok (by simp)
  all_goals
    simp only [stateChanges]
    exact .seq fun _ => .ok (by simp)

theorem stateAccess_yields (store : Store) (most : Nat) (nodes : List Node) :
    Yields Json.IsOrdinary (stateAccess span store most nodes) := by
  rcases nodes with _ | ⟨slot, rest⟩ <;> simp only [stateAccess] <;> split <;> try exact .error
  cases slot.name? with
  | none => exact .error
  | some name =>
      refine (statePath_yields store rest).bind fun path hpath =>
        (stateChanges_yields rest).bind fun changes hchanges =>
          .ok (tagged_isOrdinary (not_definition_of_ret ?_))
      cases store <;> simp_all [Store.slot]

theorem newValue_yields (name : String) (contents type : Node) :
    Yields Json.IsOrdinary (newValue span name contents type) := by
  cases contents with
  | array place elements =>
      simp only [newValue]
      split
      · refine .seq fun _ => ?_
        split
        · exact .error
        · exact .seq fun _ => .seq fun _ => .ok (tagged_isOrdinary rfl)
      · exact .error
  | object place properties =>
      simp only [newValue]
      split
      · exact .error
      · exact .seq fun _ => .seq fun _ => .seq fun _ => .ok (tagged_isOrdinary rfl)
  | _ =>
      simp only [newValue]
      exact .error

theorem call_yields (callee : Node) (arguments : List Node) :
    Yields Json.IsOrdinary (term (.call span callee arguments)) := by
  rw [term]
  refine .seq fun name => ?_
  split
  · exact stateAccess_yields .cells 3 arguments
  split
  · exact stateAccess_yields .pools 4 arguments
  split
  · split
    · exact .ok (tagged_isOrdinary rfl)
    · exact .error
  · exact .seq fun items => .ok (application_isOrdinary span _ items)

theorem construct_yields (callee : Node) (arguments : List Node) :
    Yields Json.IsOrdinary (term (.construct span callee arguments)) := by
  cases callee with
  | identifier place name =>
      by_cases hname : name = "Array" ∨ name = "Map" ∨ name = "Record"
      · rcases arguments with _ | ⟨contents, _ | ⟨type, _ | ⟨third, rest⟩⟩⟩
        case cons.cons.nil =>
          rw [term, if_pos hname]
          exact newValue_yields name contents type
        all_goals
          simp only [term, if_pos hname]
          exact .error
      · rw [term_construct_of_not hname]
        exact .error
  | _ =>
      simp only [term]
      exact .error

theorem assignment_yields (operator : String) (left right : Node) :
    Yields Json.IsOrdinary (term (.assignment span operator left right)) := by
  by_cases hoperator : !isAssignmentOperator operator
  · cases left <;> simp only [term, if_pos hoperator] <;> exact .error
  cases left with
  | identifier place name =>
      rw [term, if_neg hoperator]
      exact .seq fun _ => .seq fun _ => .ok (tagged_isOrdinary rfl)
  | member place base access computed =>
      rw [term, if_neg hoperator]
      exact .seq fun path => .seq fun _ => .seq fun stored =>
        .ok ⟨rfl, isFunctionDefinition_insert_to place path.1 stored path.2⟩
  | _ =>
      simp only [term, if_neg hoperator]
      exact .error

/-- Whether a node is a literal. -/
def isLiteral : Node → Bool
  | .literal .. => true
  | _ => false

/-- Apart from the values of literals, no term is null and none passes for the definition of a
function. -/
theorem term_yields (h : node.isLiteral = false) : Yields Json.IsOrdinary (term node) := by
  cases node with
  | literal span raw value pattern => cases h
  | identifier span name =>
      rw [term]
      exact .ok ⟨rfl, rfl⟩
  | member span base access computed =>
      rw [term]
      exact .seq fun _ => .ok (tagged_isOrdinary rfl)
  | unary span operator argument leading =>
      rw [term]
      split
      · exact .error
      · exact .seq fun _ => .ok (application_isOrdinary span _ _)
  | binary span operator left right =>
      rw [term]
      split
      · exact .error
      · exact .seq fun _ => .seq fun _ => .ok (application_isOrdinary span _ _)
  | conditional span test consequent alternate =>
      rw [term]
      exact .seq fun _ => .seq fun _ => .seq fun _ => .ok (tagged_isOrdinary rfl)
  | call span callee arguments => exact call_yields callee arguments
  | construct span callee arguments => exact construct_yields callee arguments
  | assignment span operator left right => exact assignment_yields operator left right
  | update span operator argument leading =>
      cases argument with
      | identifier place name =>
          rw [term]
          exact .seq fun _ => .ok (tagged_isOrdinary rfl)
      | _ =>
          simp only [term]
          exact .error
  | declaration span parts kind =>
      rw [term]
      exact .seq fun _ => .ok (tagged_isOrdinary rfl)
  | sequence span parts | block span parts =>
      rw [term]
      exact .seq fun _ => .ok (tagged_isOrdinary rfl)
  | _ =>
      rw [term_of_not_isExpression rfl]
      exact .error

theorem literal_or_ordinary (h : term node = .ok v) :
    (∃ span raw value pattern, node = .literal span raw value pattern ∧
      v = literalTerm span value) ∨ v.IsOrdinary := by
  cases hnode : node.isLiteral with
  | true =>
      cases node with
      | literal span raw value pattern =>
          rw [term_literal] at h
          split at h <;> cases h
          exact .inl ⟨span, raw, value, pattern, rfl, rfl⟩
      | _ => cases hnode
  | false => exact .inr (term_yields hnode v h)

/-- Whether a node is the literal `null`. -/
def isNullLiteral : Node → Bool
  | .literal _ _ .null pattern => !pattern.isText
  | _ => false

theorem term_of_isNullLiteral (h : node.isNullLiteral = true) : term node = .ok .null := by
  unfold isNullLiteral at h
  split at h
  · rw [term_literal, if_neg (by simpa using h)]
    rfl
  · cases h

/-- Exactly the literal `null` has null for its term. -/
theorem isNull_term (h : term node = .ok v) : v.isNull = node.isNullLiteral := by
  cases hnull : node.isNullLiteral with
  | true =>
      rw [term_of_isNullLiteral hnull] at h
      cases h
      rfl
  | false =>
      obtain ⟨span, raw, value, pattern, rfl, rfl⟩ | hordinary := literal_or_ordinary h
      · cases value with
        | null =>
            -- it would have to be a regular expression, and these have no term
            have hpattern : pattern.isText = true := by simpa [isNullLiteral] using hnull
            rw [term_literal, if_pos hpattern] at h
            cases h
        | _ => rfl
      · exact hordinary.isNull

/-- A term that passes for the definition of a function is the value of a literal. -/
theorem literal_of_isFunctionDefinition (h : term node = .ok v)
    (hdefinition : v.isFunctionDefinition = true) :
    ∃ span raw pattern, node = .literal span raw v pattern := by
  obtain ⟨span, raw, value, pattern, rfl, rfl⟩ | hordinary := literal_or_ordinary h
  · cases value with
    | obj fields => exact ⟨span, raw, pattern, rfl⟩
    | str text => simp [literalTerm, Entries.contains] at hdefinition
    | _ => cases hdefinition
  · rw [hordinary.isFunctionDefinition] at hdefinition
    cases hdefinition

end Node

end PfaScript
