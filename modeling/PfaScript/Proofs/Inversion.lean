import PfaScript.Proofs.Equation

/-!
# What a compiled node was made of

For constructs that give names to values, what follows from the fact that they compile: which of
their parts compile, to what, and how the result is built from them. For the questions that the
compiler asks about the shape of a node, what the node is if the answer is a name or a value.
-/

namespace PfaScript

variable {span : Option Span} {operator name : String} {computed : Bool}
  {node test body base access : Node} {nodes : List Node} {v value : Json} {items : List Json}
  {entries : List (String × Json)}

/-! ### Names and constants -/

/-- A key is a text or a plain name, and not the one of markers. -/
theorem propertyKey_ok {key : Node} {kind : String}
    (h : propertyKey span key kind computed = .ok name) :
    name ≠ markerKey ∧
      ((∃ place raw pattern, key = .literal place raw (.str name) pattern) ∨
        ∃ place, key = .identifier place name) := by
  have hnamed {text : String}
      (h : (if text = markerKey then .error ⟨.reservedKey, span⟩ else .ok text :
        Except Fault String) = .ok name) : text = name ∧ name ≠ markerKey := by
    split at h
    · cases h
    next hne =>
      cases h
      exact ⟨rfl, hne⟩
  unfold propertyKey at h
  split at h
  · cases h
  split at h
  · obtain ⟨rfl, hne⟩ := hnamed h
    exact ⟨hne, .inl ⟨_, _, _, rfl⟩⟩
  · obtain ⟨rfl, hne⟩ := hnamed h
    exact ⟨hne, .inr ⟨_, rfl⟩⟩
  · cases h

/-- The entries of an object literal are properties with keys, and what is made of each is made
without fault. -/
theorem entriesWith_cons_ok {make : String → Node → Except Fault Json}
    (h : entriesWith make (node :: nodes) = .ok entries) :
    ∃ span key value kind computed name first others,
      node = .property span key value kind computed ∧
      propertyKey span key kind computed = .ok name ∧ make name value = .ok first ∧
      entriesWith make nodes = .ok others ∧ entries = (name, first) :: others := by
  cases node with
  | property span key value kind computed =>
      simp only [entriesWith, bind_eq_ok_iff] at h
      obtain ⟨name, hname, first, hfirst, others, hothers, h⟩ := h
      cases h
      exact ⟨span, key, value, kind, computed, name, first, others, rfl, hname, hfirst, hothers,
        rfl⟩
  | _ => simp [entriesWith] at h

/-- A negated number is a literal behind a minus sign. -/
theorem negatedLiteral?_some {argument : Node} {number : Json}
    (h : negatedLiteral? operator argument = some number) :
    ∃ place raw value pattern, argument = .literal place raw value pattern ∧
      value.negated? = some number := by
  unfold negatedLiteral? at h
  split at h
  · exact ⟨_, _, _, _, rfl, h⟩
  · cases h

namespace Node

/-- A text is a literal that is no pattern. -/
theorem text?_some {text : String} (h : node.text? = some text) :
    ∃ span raw, node = .literal span raw (.str text) .null := by
  unfold text? at h
  split at h
  · cases h
    exact ⟨_, _, rfl⟩
  · cases h

/-- A name is given as a text or as it is. -/
theorem name?_some (h : node.name? = some name) :
    (∃ span raw pattern, node = .literal span raw (.str name) pattern) ∨
      ∃ span, node = .identifier span name := by
  unfold name? at h
  split at h
  · cases h
    exact .inl ⟨_, _, _, rfl⟩
  · cases h
    exact .inr ⟨_, rfl⟩
  · cases h

/-- A parameter of a definition is a plain name with a type. -/
theorem typedParams_cons_ok {param : Param Node} {rest : List (Param Node)}
    (h : typedParams (param :: rest) = .ok items) :
    ∃ span name type first others, param = ⟨.identifier span name, some type⟩ ∧
      type.constant = .ok first ∧ typedParams rest = .ok others ∧
      items = .obj [(name, first)] :: others := by
  obtain ⟨target, initial⟩ := param
  cases target with
  | identifier span name =>
      cases initial with
      | none => simp [typedParams] at h
      | some type =>
          simp only [typedParams, bind_eq_ok_iff] at h
          obtain ⟨first, hfirst, others, hothers, h⟩ := h
          cases h
          exact ⟨span, name, type, first, others, rfl, hfirst, hothers, rfl⟩
  | _ => simp [typedParams] at h

/-! ### Expressions -/

/-- A member access is a root with a path. -/
theorem member_ok (h : term (.member span base access computed) = .ok v) :
    ∃ root path, accesses span base access computed = .ok (root, path) ∧
      v = .obj (attributeEntries span root path) := by
  simp only [term, bind_eq_ok_iff] at h
  obtain ⟨⟨root, path⟩, hpath, h⟩ := h
  cases h
  exact ⟨root, path, hpath, rfl⟩

/-- A declaration binds its variables. -/
theorem declaration_ok {declarators : List (Declarator Node)} {kind : String}
    (h : term (.declaration span declarators kind) = .ok v) :
    ∃ bound, bindings declarators = .ok bound ∧
      v = tagged span [("let", .obj (Entries.ofList bound))] := by
  simp only [term, bind_eq_ok_iff] at h
  obtain ⟨bound, hbound, h⟩ := h
  cases h
  exact ⟨bound, hbound, rfl⟩

/-- A sequence sets its variables. -/
theorem sequence_ok {items : List Node} (h : term (.sequence span items) = .ok v) :
    ∃ bound, assignments items = .ok bound ∧
      v = tagged span [("set", .obj (Entries.ofList bound))] := by
  simp only [term, bind_eq_ok_iff] at h
  obtain ⟨bound, hbound, h⟩ := h
  cases h
  exact ⟨bound, hbound, rfl⟩

/-! ### Functions and lists of parts -/

/-- A reference to a function is a call of `fcn` with a name. -/
theorem functionReference?_some (h : node.functionReference? = some name) :
    ∃ span place argument, node = .call span (.identifier place "fcn") [argument] ∧
      argument.name? = some name := by
  unfold functionReference? at h
  split at h
  · exact ⟨_, _, _, rfl, h⟩
  · cases h

/-- A plain function has no name of its own and no parameter for the remaining arguments. -/
theorem isPlainFunction_iff {id rest : Option Node} {flags : FunctionFlags}
    (h : isPlainFunction id rest flags) : id = none ∧ rest = none := by
  simp only [isPlainFunction, Bool.and_eq_true, Option.isNone_iff_eq_none] at h
  exact ⟨h.1.1.1.1, h.1.1.1.2⟩

/-- A definition is a plain function with its types; its body is a block. -/
theorem definition_ok (h : definition node = .ok v) :
    ∃ span place params inner body flags type given ret items,
      node = .binary span ">>" (.function place params (.block inner body) none none flags) type ∧
      typedParams params = .ok given ∧ type.constant = .ok ret ∧ statements body = .ok items ∧
      v = tagged span [("params", .arr given), ("ret", ret), ("do", .arr items)] := by
  unfold definition at h
  split at h
  next span place params inner body id rest flags type =>
    split at h
    next hplain =>
      obtain ⟨rfl, rfl⟩ := isPlainFunction_iff hplain
      simp only [bind_eq_ok_iff] at h
      obtain ⟨given, hgiven, ret, hret, items, hitems, h⟩ := h
      cases h
      exact ⟨span, place, params, inner, body, flags, type, given, ret, items, rfl, hgiven, hret,
        hitems, rfl⟩
    next => cases h
  all_goals cases h

/-- A declarator is a plain name with a value. -/
theorem bindings_cons_ok {declarator : Declarator Node} {rest : List (Declarator Node)}
    {bound : List (String × Json)} (h : bindings (declarator :: rest) = .ok bound) :
    ∃ span place name init value others, declarator = ⟨span, .identifier place name, some init⟩ ∧
      term init = .ok value ∧ bindings rest = .ok others ∧ bound = (name, value) :: others := by
  obtain ⟨span, target, init⟩ := declarator
  cases target with
  | identifier place name =>
      cases init with
      | none => simp [bindings] at h
      | some init =>
          simp only [bindings, bind_eq_ok_iff] at h
          obtain ⟨value, hvalue, others, hothers, h⟩ := h
          cases h
          exact ⟨span, place, name, init, value, others, rfl, hvalue, hothers, rfl⟩
  | _ => simp [bindings] at h

/-- An assignment of a sequence gives a variable a value. -/
theorem assignments_cons_ok {bound : List (String × Json)}
    (h : assignments (node :: nodes) = .ok bound) :
    ∃ span place name right value others,
      node = .assignment span "=" (.identifier place name) right ∧ term right = .ok value ∧
      assignments nodes = .ok others ∧ bound = (name, value) :: others := by
  unfold assignments at h
  split at h
  next heq => cases heq
  next heq =>
    cases heq
    split at h
    · cases h
    next hop =>
      obtain rfl := not_not.mp hop
      split at h
      next place name =>
        simp only [bind_eq_ok_iff] at h
        obtain ⟨value, hvalue, others, hothers, h⟩ := h
        cases h
        exact ⟨_, place, name, _, value, others, rfl, hvalue, hothers, rfl⟩
      next => cases h
  next => cases h

/-! ### Statements -/

/-- A statement that leaves nothing behind is dropped. -/
theorem statements_cons_ok (h : statements (node :: nodes) = .ok items) :
    ∃ first others, statement node = .ok first ∧ statements nodes = .ok others ∧
      items = if first.isNull then others else first :: others := by
  simp only [statements, bind_eq_ok_iff] at h
  obtain ⟨first, hfirst, others, hothers, h⟩ := h
  cases h
  exact ⟨first, others, hfirst, hothers, rfl⟩

/-- A conditional statement is its first branch and the rest of its chain. -/
theorem conditionalStatement_ok {consequent : Node} {alternate : Option Node}
    (h : statement (.conditionalStatement span test consequent alternate) = .ok v) :
    ∃ condition items others otherwise, term test = .ok condition ∧
      statementBody consequent = .ok items ∧ alternatives alternate = .ok (others, otherwise) ∧
      v = conditionalTerm span (branch span condition items) others otherwise := by
  simp only [statement, bind_eq_ok_iff] at h
  obtain ⟨condition, hcondition, items, hitems, ⟨others, otherwise⟩, hothers, h⟩ := h
  cases h
  exact ⟨condition, items, others, otherwise, hcondition, hitems, hothers, rfl⟩

/-- A `for` loop has a declaration, at least one step and a body; its test may be missing. -/
theorem forLoop_ok {init test step : Option Node}
    (h : statement (.forLoop span init test step body) = .ok v) :
    ∃ place declarators kind bound changes condition items,
      init = some (.declaration place declarators kind) ∧ bindings declarators = .ok bound ∧
      stepParts step ≠ [] ∧ steps (stepParts step) = .ok changes ∧
      loopTest test = .ok condition ∧ statementBody body = .ok items ∧
      v = tagged span [("for", .obj (Entries.ofList bound)), ("while", condition),
        ("step", .obj (Entries.ofList changes)), ("do", .arr items)] := by
  rcases init with _ | node
  · simp [statement] at h
  · cases node with
    | declaration place declarators kind =>
        rw [statement_forLoop] at h
        simp only [bind_eq_ok_iff] at h
        obtain ⟨bound, hbound, h⟩ := h
        by_cases hparts : (stepParts step).isEmpty || !(stepParts step).all isStep
        · rw [if_pos hparts] at h
          cases h
        · rw [if_neg hparts] at h
          simp only [bind_eq_ok_iff] at h
          obtain ⟨changes, hchanges, condition, hcondition, items, hitems, h⟩ := h
          cases h
          have hne : stepParts step ≠ [] := by
            intro hnil
            simp [hnil] at hparts
          exact ⟨place, declarators, kind, bound, changes, condition, items, rfl, hbound, hne,
            hchanges, hcondition, hitems, rfl⟩
    | _ => simp [statement] at h

/-- The variable of a loop over a value is declared without one. -/
theorem loopVariable?_some (h : node.loopVariable? = some name) :
    ∃ span inner place, node = .declaration span [⟨inner, .identifier place name, none⟩] "var" := by
  unfold loopVariable? at h
  split at h
  · simp only [Option.some.injEq] at h
    subst h
    exact ⟨_, _, _, rfl⟩
  · cases h

/-- A step of a loop assigns to a variable or counts it up or down. -/
theorem stepChange_ok (h : stepChange node = .ok (name, value)) :
    (∃ span operator place right given, node = .assignment span operator (.identifier place name)
        right ∧ term right = .ok given ∧ assigned span operator (.str name) given = .ok value) ∨
      ∃ span operator place leading function,
        node = .update span operator (.identifier place name) leading ∧
        updateFunction? operator = some function ∧
        value = application span function [.str name, .int 1] := by
  unfold stepChange at h
  split at h
  next span operator place written right =>
    simp only [bind_eq_ok_iff] at h
    obtain ⟨given, hgiven, stored, hstored, h⟩ := h
    cases h
    exact .inl ⟨span, operator, place, right, given, rfl, hgiven, hstored⟩
  next span operator place written leading =>
    unfold updated at h
    split at h
    next function hfunction =>
      cases h
      exact .inr ⟨span, operator, place, leading, function, rfl, hfunction, rfl⟩
    next => cases h
  all_goals cases h

/-- The steps of a loop are compiled one after the other. -/
theorem steps_cons_ok {changes : List (String × Json)} (h : steps (node :: nodes) = .ok changes) :
    ∃ name value others, stepChange node = .ok (name, value) ∧ steps nodes = .ok others ∧
      changes = (name, value) :: others := by
  simp only [steps, bind_eq_ok_iff] at h
  obtain ⟨⟨name, value⟩, hfirst, others, hothers, h⟩ := h
  cases h
  exact ⟨name, value, others, hfirst, hothers, rfl⟩

end Node

end PfaScript
