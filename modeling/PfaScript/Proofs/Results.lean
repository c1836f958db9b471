import PfaScript.Proofs.Equation

/-!
# What compiled results are made of

A property of what a tree compiles to is given by `Results`: what is to be shown of constants,
terms, functions and statements. If it holds of everything that the compiler builds from results
that have it, provided that the nodes of the tree are as `N` demands (`Results.Closed`), then it
holds of all results (`Node.account_closed`). The conditions speak of values only, not of how the
compiler comes to build them.
-/

namespace PfaScript

/-! ### Names that the compiler gives -/

/-- No operator is a function that is named as the marker is. -/
theorem unaryFunction?_ne_markerKey {operator name : String}
    (h : unaryFunction? operator = some name) : name ≠ markerKey := by
  unfold unaryFunction? at h
  split at h <;> cases h <;> decide

theorem binaryFunction?_ne_markerKey {operator name : String}
    (h : binaryFunction? operator = some name) : name ≠ markerKey := by
  unfold binaryFunction? at h
  split at h
  · cases h
    decide
  · cases h
    decide
  · cases h
    decide
  · split at h
    next hmem =>
      cases h
      rintro rfl
      exact absurd hmem (by decide)
    · cases h

theorem compoundFunction?_ne_markerKey {operator name : String}
    (h : compoundFunction? operator = some name) : name ≠ markerKey := by
  unfold compoundFunction? at h
  split at h <;> cases h <;> decide

theorem updateFunction?_ne_markerKey {operator name : String}
    (h : updateFunction? operator = some name) : name ≠ markerKey := by
  unfold updateFunction? at h
  split at h <;> cases h <;> decide

/-- No name with a point in it is that of the marker. -/
theorem point_ne_markerKey (left right : String) : left ++ "." ++ right ≠ markerKey := by
  intro h
  have hmem : '.' ∈ (left ++ "." ++ right).toList := by simp
  rw [h] at hmem
  exact absurd hmem (by decide)

/-! ### Properties of results -/

/-- What is to be shown of the results of the compiler's functions. -/
structure Results where
  /-- Of the place of a node. -/
  place : Option Span → Prop
  /-- Of the name of a variable, a key or a function. -/
  name : String → Prop
  /-- Of a constant. -/
  value : Json → Prop
  parameter : Json → Prop
  term : Json → Prop
  operand : Json → Prop
  definition : Json → Prop
  branch : Json → Prop
  statement : Json → Prop

namespace Results

variable (R : Results) (N : Node → Prop)

/-- The entries have names for keys, and their values have the property. -/
def Bound (P : Json → Prop) (entries : List (String × Json)) : Prop :=
  ∀ entry ∈ entries, R.name entry.1 ∧ P entry.2

variable {R} in
theorem Bound.nil {P : Json → Prop} : R.Bound P [] := by simp [Bound]

variable {R} in
/-- Names and values that have the properties can be added one by one. -/
theorem Bound.cons {P : Json → Prop} {name : String} {v : Json} {entries : List (String × Json)}
    (h : R.Bound P entries) (hname : R.name name) (hv : P v) : R.Bound P ((name, v) :: entries) :=
  List.forall_mem_cons.mpr ⟨⟨hname, hv⟩, h⟩

variable {R} in
theorem Bound.single {P : Json → Prop} {name : String} {v : Json} (hname : R.name name)
    (hv : P v) : R.Bound P [(name, v)] :=
  List.forall_mem_singleton.mpr ⟨hname, hv⟩

/-- The property holds of everything that is built from results that have it. -/
structure Closed : Prop where
  place {node : Node} : N node → R.place node.span
  variableName {span : Option Span} {name : String} : N (.identifier span name) → R.name name
  fixedName {name : String} : name ≠ markerKey → R.name name
  literalValue {span : Option Span} {raw : Option Json} {value pattern : Json} :
    N (.literal span raw value pattern) → R.value value
  negated {value number : Json} :
    R.value value → value.negated? = some number → R.value number
  items {items : List Json} : (∀ item ∈ items, R.value item) → R.value (.arr items)
  mapping {span : Option Span} {entries : List (String × Json)} :
    R.place span → R.Bound R.value entries → R.value (tagged span (Entries.ofList entries))
  parameter {name : String} {type : Json} :
    R.name name → R.value type → R.parameter (.obj [(name, type)])
  literal {span : Option Span} {raw : Option Json} {value pattern : Json} :
    N (.literal span raw value pattern) → R.term (literalTerm span value)
  identifier (name : String) : R.term (.str name)
  one : R.term (.int 1)
  always : R.term (.bool true)
  string {span : Option Span} (text : String) :
    R.place span → R.term (tagged span [("string", .str text)])
  part {span : Option Span} {root : Json} {path : List Json} :
    R.place span → R.term root → path ≠ [] → (∀ step ∈ path, R.term step) →
      R.term (.obj (attributeEntries span root path))
  partTo {span : Option Span} {root value : Json} {path : List Json} :
    R.place span → R.term root → path ≠ [] → (∀ step ∈ path, R.term step) → R.operand value →
      R.term (.obj ((attributeEntries span root path).insert "to" value))
  application {span : Option Span} {function : String} {arguments : List Json} :
    R.place span → R.name function → (∀ argument ∈ arguments, R.operand argument) →
      R.term (application span function arguments)
  conditional {span : Option Span} {test first second : Json} :
    R.place span → R.term test → R.term first → R.term second →
      R.term (tagged span [("if", test), ("then", first), ("else", second)])
  slot {span : Option Span} (store : Store) (name : String) :
    R.place span → R.term (tagged span [(store.slot, .str name)])
  slotPart {span : Option Span} {path : List Json} (store : Store) (name : String) :
    R.place span → (∀ step ∈ path, R.term step) →
      R.term (tagged span [(store.slot, .str name), ("path", .arr path)])
  slotTo {span : Option Span} {path : List Json} {value : Json} (store : Store) (name : String) :
    R.place span → (∀ step ∈ path, R.term step) → R.operand value →
      R.term (tagged span [(store.slot, .str name), ("path", .arr path), ("to", value)])
  poolInit {span : Option Span} {path : List Json} {value initial : Json} (name : String) :
    R.place span → (∀ step ∈ path, R.term step) → R.operand value → R.operand initial →
      R.term (tagged span [(Store.pools.slot, .str name), ("path", .arr path), ("to", value),
        ("init", initial)])
  doc {span : Option Span} (text : String) :
    R.place span → R.term (tagged span [("doc", .str text)])
  newItems {span : Option Span} {items : List Json} {type : Json} :
    R.place span → (∀ item ∈ items, R.term item) → R.value type →
      R.term (tagged span [("new", .arr items), ("type", type)])
  newEntries {span : Option Span} {entries : List (String × Json)} {type : Json} :
    R.place span → R.Bound R.term entries → R.value type →
      R.term (tagged span [("new", .obj (Entries.ofList entries)), ("type", type)])
  binding {span : Option Span} {bound : List (String × Json)} :
    R.place span → R.Bound R.term bound →
      R.term (tagged span [("let", .obj (Entries.ofList bound))])
  assignment {span : Option Span} {bound : List (String × Json)} :
    R.place span → R.Bound R.term bound →
      R.term (tagged span [("set", .obj (Entries.ofList bound))])
  block {span : Option Span} {body : List Json} :
    R.place span → (∀ item ∈ body, R.statement item) → R.term (tagged span [("do", .arr body)])
  ofTerm {v : Json} : R.term v → R.operand v
  ofFunction {v : Json} : R.definition v → R.operand v
  reference {span : Option Span} (name : String) :
    R.place span → R.operand (tagged span [("fcn", .str name)])
  definition {span : Option Span} {params body : List Json} {ret : Json} :
    R.place span → (∀ param ∈ params, R.parameter param) → R.value ret →
      (∀ item ∈ body, R.statement item) →
      R.definition (tagged span [("params", .arr params), ("ret", ret), ("do", .arr body)])
  branch {span : Option Span} {test : Json} {body : List Json} :
    R.place span → R.term test → (∀ item ∈ body, R.statement item) →
      R.branch (.obj (PfaScript.branch span test body))
  choice {span : Option Span} {first : Entries String Json} {others : List (Entries String Json)}
    {otherwise : Option (List Json)} :
    R.place span → R.branch (.obj first) → (∀ branch ∈ others, R.branch (.obj branch)) →
      (∀ body ∈ otherwise, ∀ item ∈ body, R.statement item) →
      R.statement (conditionalTerm span first others otherwise)
  expression {v : Json} : R.term v → v ≠ .null → R.statement v
  whileLoop {span : Option Span} {test : Json} {body : List Json} :
    R.place span → R.term test → (∀ item ∈ body, R.statement item) →
      R.statement (tagged span [("while", test), ("do", .arr body)])
  untilLoop {span place : Option Span} {test : Json} {body : List Json} :
    R.place span → R.place place → R.term test → (∀ item ∈ body, R.statement item) →
      R.statement (tagged span [("do", .arr body), ("until", tagged place [("not", test)])])
  forLoop {span : Option Span} {bound changes : List (String × Json)} {test : Json}
    {body : List Json} :
    R.place span → R.Bound R.term bound → R.term test → changes ≠ [] →
      R.Bound R.term changes → (∀ item ∈ body, R.statement item) →
      R.statement (tagged span [("for", .obj (Entries.ofList bound)), ("while", test),
        ("step", .obj (Entries.ofList changes)), ("do", .arr body)])
  forEach {span : Option Span} {collection : Json} {body : List Json} (name : String) :
    R.place span → R.term collection → (∀ item ∈ body, R.statement item) →
      R.statement (tagged span [("foreach", .str name), ("in", collection), ("do", .arr body)])
  error {span : Option Span} (text : String) :
    R.place span → R.statement (tagged span [("error", .str text)])

end Results

end PfaScript
