import PfaScript.Proofs.Entries
import PfaScript.Proofs.Reading

/-!
# Trees are read back

`Node.encode` writes a tree in the JSON form it can be read from, with the default values of
parameters in a list of their own. Reading what is written gives the tree back, with all places and
labels (`Node.encode_faithful`), if the tree was read itself, so that the payloads of its unknown
constructs are what they stand for. A parameter that is still a pattern would be taken apart once
more, so no function may have one.
-/

namespace PfaScript

/-- The `loc` entry of a place. -/
def Span.encode (span : Span) : Json :=
  .obj [
    ("start", .obj [("line", .int span.startLine), ("column", .int span.startColumn)]),
    ("end", .obj [("line", .int span.endLine), ("column", .int span.endColumn)])]

namespace Node

/-- The entry that says where a node stands, if it stands somewhere. -/
def placeEntry : Option Span → Entries String Json
  | none => []
  | some span => [("loc", span.encode)]

/-- The fields of a node's JSON form: its tag, the entries of its construct and its place. -/
def entries (tag : String) (span : Option Span) (own : Entries String Json) : Entries String Json :=
  ("type", .str tag) :: (own ++ placeEntry span)

/-- The entry of a regular expression's pattern. -/
def regexEntry (pattern : Json) : Entries String Json :=
  if pattern.isNull then [] else [("regex", .obj [("pattern", pattern)])]

/-- The entry of a literal's written form. -/
def rawEntry : Option Json → Entries String Json
  | none => []
  | some raw => [("raw", raw)]

mutual

/-- The JSON form of a tree. Every field of a construct has an entry, and a child that is missing is
null; only a place, a pattern or a written form that is missing has none. -/
def encode : Node → Json
  | .literal span raw value pattern =>
    .obj (entries "Literal" span ([("value", value)] ++ regexEntry pattern ++ rawEntry raw))
  | .identifier span name => .obj (entries "Identifier" span [("name", .str name)])
  | .array span elements =>
    .obj (entries "ArrayExpression" span [("elements", .arr (encodeHoles elements))])
  | .property span key value kind computed =>
    .obj (entries "Property" span [("key", encode key), ("value", encode value),
      ("kind", .str kind), ("computed", .bool computed)])
  | .object span properties =>
    .obj (entries "ObjectExpression" span [("properties", .arr (encodeAll properties))])
  | .member span base access computed =>
    .obj (entries "MemberExpression" span [("object", encode base), ("property", encode access),
      ("computed", .bool computed)])
  | .unary span operator argument leading =>
    .obj (entries "UnaryExpression" span [("operator", .str operator),
      ("argument", encode argument), ("prefix", .bool leading)])
  | .binary span operator left right =>
    .obj (entries "BinaryExpression" span [("operator", .str operator), ("left", encode left),
      ("right", encode right)])
  | .conditional span test consequent alternate =>
    .obj (entries "ConditionalExpression" span [("test", encode test),
      ("consequent", encode consequent), ("alternate", encode alternate)])
  | .call span callee arguments =>
    .obj (entries "CallExpression" span [("callee", encode callee),
      ("arguments", .arr (encodeAll arguments))])
  | .construct span callee arguments =>
    .obj (entries "NewExpression" span [("callee", encode callee),
      ("arguments", .arr (encodeAll arguments))])
  | .function span params body id rest flags =>
    .obj (entries "FunctionExpression" span [("params", .arr (encodeTargets params)),
      ("defaults", .arr (encodeInitials params)), ("body", encode body),
      ("id", encodeOption id), ("rest", encodeOption rest), ("generator", .bool flags.generator),
      ("expression", .bool flags.expression), ("async", .bool flags.async)])
  | .declarator ⟨span, target, init⟩ =>
    .obj (entries "VariableDeclarator" span [("id", encode target), ("init", encodeOption init)])
  | .declaration span declarators kind =>
    .obj (entries "VariableDeclaration" span [
      ("declarations", .arr (encodeDeclarators declarators)), ("kind", .str kind)])
  | .assignment span operator left right =>
    .obj (entries "AssignmentExpression" span [("operator", .str operator), ("left", encode left),
      ("right", encode right)])
  | .update span operator argument leading =>
    .obj (entries "UpdateExpression" span [("operator", .str operator),
      ("argument", encode argument), ("prefix", .bool leading)])
  | .sequence span expressions =>
    .obj (entries "SequenceExpression" span [("expressions", .arr (encodeAll expressions))])
  | .block span body => .obj (entries "BlockStatement" span [("body", .arr (encodeAll body))])
  | .expressionStatement span inner =>
    .obj (entries "ExpressionStatement" span [("expression", encode inner)])
  | .conditionalStatement span test consequent alternate =>
    .obj (entries "IfStatement" span [("test", encode test), ("consequent", encode consequent),
      ("alternate", encodeOption alternate)])
  | .whileLoop span test body =>
    .obj (entries "WhileStatement" span [("test", encode test), ("body", encode body)])
  | .doWhileLoop span body test =>
    .obj (entries "DoWhileStatement" span [("body", encode body), ("test", encode test)])
  | .forLoop span init test step body =>
    .obj (entries "ForStatement" span [("init", encodeOption init), ("test", encodeOption test),
      ("update", encodeOption step), ("body", encode body)])
  | .forInLoop span left right body =>
    .obj (entries "ForInStatement" span [("left", encode left), ("right", encode right),
      ("body", encode body)])
  | .throwStatement span argument =>
    .obj (entries "ThrowStatement" span [("argument", encode argument)])
  | .empty span => .obj (entries "EmptyStatement" span [])
  | .program span body => .obj (entries "Program" span [("body", .arr (encodeAll body))])
  | .unsupported _ _ payload => .obj payload

/-- The JSON forms of the nodes of a list. -/
def encodeAll : List Node → List Json
  | [] => []
  | node :: rest => encode node :: encodeAll rest

/-- The JSON form of a node that may be missing. -/
def encodeOption : Option Node → Json
  | none => .null
  | some node => encode node

/-- The JSON forms of an array's elements. -/
def encodeHoles : List (Option Node) → List Json
  | [] => []
  | element :: rest => encodeOption element :: encodeHoles rest

/-- The JSON forms of a function's parameters, without their default values. -/
def encodeTargets : List (Param Node) → List Json
  | [] => []
  | ⟨target, _⟩ :: rest => encode target :: encodeTargets rest

/-- The JSON forms of the default values of a function's parameters. -/
def encodeInitials : List (Param Node) → List Json
  | [] => []
  | ⟨_, initial⟩ :: rest => encodeOption initial :: encodeInitials rest

/-- The JSON forms of the declarators of a declaration. -/
def encodeDeclarators : List (Declarator Node) → List Json
  | [] => []
  | ⟨span, target, init⟩ :: rest =>
    .obj (entries "VariableDeclarator" span [("id", encode target), ("init", encodeOption init)]) ::
      encodeDeclarators rest

end

/-! ### Fields of an encoded node -/

variable (tag : String) (span : Option Span) (own : Entries String Json)

theorem get?_entries_type : (entries tag span own).get? "type" = some (.str tag) := by
  simp [entries, Entries.get?]

/-- An entry of the construct is found behind the tag and before the place. -/
@[simp] theorem get?_entries {key : String} (htype : "type" ≠ key) (hloc : "loc" ≠ key) :
    (entries tag span own).get? key = own.get? key := by
  have hplace : (placeEntry span).get? key = none := by
    cases span with
    | none => rfl
    | some span => simp [placeEntry, Entries.get?, hloc]
  simp [entries, Entries.get?, htype, Entries.get?_append, hplace]

theorem spanField_entries {own : Entries String Json} (hown : own.get? "loc" = none) :
    Load.spanField (entries tag span own) = .ok span := by
  have hloc : (entries tag span own).get? "loc" = span.map Span.encode := by
    simp only [entries, Entries.get?, Entries.get?_append, hown]
    cases span <;> rfl
  rw [Load.spanField, hloc]
  cases span <;> rfl

variable {tag span own}

/-- An encoded node is read from the entries of its construct. -/
theorem load_entries (c : Construct) {tree : Node}
    (htree : (do
      let make ← Load.build tag (entries tag span own) c
      return make span) = .ok tree)
    (hc : Construct.ofTag? tag = some c := by rfl) (hown : own.get? "loc" = none := by rfl) :
    Load.node (.obj (entries tag span own)) = .ok tree := by
  rw [Load.node_known (get?_entries_type tag span own) hc, spanField_entries tag span hown]
  exact htree

/-! ### Encoded children -/

theorem isNull_encode (node : Node) : node.encode.isNull = false := by
  cases node <;> rfl

theorem childOf_encode {node : Node} (h : Load.node node.encode = .ok node) (tag key : String) :
    Load.childOf tag key (some node.encode) = .ok node := by
  simp [Load.childOf, isNull_encode, h]

theorem optionOf_encodeOption {node : Option Node}
    (h : ∀ n ∈ node.toList, Load.node n.encode = .ok n) :
    Load.optionOf (some (encodeOption node)) = .ok node := by
  cases node with
  | none => rfl
  | some node =>
      have hnode := h node List.mem_cons_self
      simp [encodeOption, Load.optionOf, isNull_encode, hnode]

theorem nodes_encodeHoles {elements : List (Option Node)}
    (h : ∀ n ∈ elements.reduceOption, Load.node n.encode = .ok n) :
    Load.nodes (encodeHoles elements) = .ok elements := by
  induction elements with
  | nil => rw [encodeHoles, Load.nodes]
  | cons element rest ih =>
      cases element with
      | none =>
          rw [List.reduceOption_cons_of_none] at h
          simp [encodeHoles, encodeOption, Load.nodes, Json.isNull, ih h]
      | some node =>
          rw [List.reduceOption_cons_of_some, List.forall_mem_cons] at h
          simp [encodeHoles, encodeOption, Load.nodes, isNull_encode, h.1, ih h.2]

@[simp] theorem reduceOption_map_some (nodes : List Node) :
    (nodes.map some).reduceOption = nodes := by
  simp [List.reduceOption]

theorem encodeAll_eq (nodes : List Node) : encodeAll nodes = encodeHoles (nodes.map some) := by
  induction nodes with
  | nil => rfl
  | cons node rest ih => simp [encodeAll, encodeHoles, encodeOption, ih]

theorem nodes_encodeAll {nodes : List Node} (h : ∀ n ∈ nodes, Load.node n.encode = .ok n) :
    Load.nodes (encodeAll nodes) = .ok (nodes.map some) := by
  rw [encodeAll_eq]
  exact nodes_encodeHoles (by rwa [reduceOption_map_some])

theorem itemsOf_encodeAll {nodes : List Node} (h : ∀ n ∈ nodes, Load.node n.encode = .ok n)
    (tag key : String) :
    Load.itemsOf tag key (some (.arr (encodeAll nodes))) = .ok (nodes.map some) :=
  nodes_encodeAll h

/-! ### Encoded parameters and declarators -/

/-- Whether this is a pattern that stands for a parameter with a default value, or for the one that
takes the remaining arguments. -/
def isPattern (node : Node) : Bool :=
  node.tag = "AssignmentPattern" || node.tag = "RestElement"

theorem encodeTargets_eq (params : List (Param Node)) :
    encodeTargets params = encodeAll (params.map Param.target) := by
  induction params with
  | nil => rfl
  | cons param rest ih => simp [encodeTargets, encodeAll, ih]

theorem encodeInitials_eq (params : List (Param Node)) :
    encodeInitials params = encodeHoles (params.map Param.initial) := by
  induction params with
  | nil => rfl
  | cons param rest ih => simp [encodeInitials, encodeHoles, ih]

/-- Parameters that are no patterns are put together with the default values beside them. -/
theorem attach_targets {params : List (Param Node)}
    (h : ∀ param ∈ params, param.target.isPattern = false) (values : List Json)
    (hlength : values.length = params.length) :
    Load.attach (params.map Param.initial) values
      (params.map (some ∘ Param.target)) = .ok (params, none) := by
  induction params generalizing values with
  | nil => exact Load.attach_nil_right _ _
  | cons param rest ih =>
      match values with
      | v :: values =>
          have hparam := h param List.mem_cons_self
          simp only [isPattern, Bool.or_eq_false_iff, decide_eq_false_iff_not] at hparam
          have hrest :=
            ih (fun p hp => h p (List.mem_cons_of_mem _ hp)) values (by simpa using hlength)
          simp [Load.attach_plain hparam.1 hparam.2, hrest]

theorem encodeDeclarators_eq (declarators : List (Declarator Node)) :
    encodeDeclarators declarators = encodeAll (declarators.map .declarator) := by
  induction declarators with
  | nil => rfl
  | cons d rest ih => simp [encodeDeclarators, encodeAll, encode, ih]

theorem declarators_map (declared : List (Declarator Node)) :
    Load.declarators (declared.map .declarator) = .ok declared := by
  induction declared with
  | nil => rfl
  | cons d rest ih => simp [Load.declarators, ih]

theorem length_encodeAll (nodes : List Node) : (encodeAll nodes).length = nodes.length := by
  induction nodes with
  | nil => rfl
  | cons node rest ih => simp [encodeAll, ih]

/-! ### Trees -/

@[simp] theorem text_str (text : String) : (Json.str text).text = text := rfl

@[simp] theorem truthy_bool (b : Bool) : (Json.bool b).truthy = b := rfl

theorem load_literal (span : Option Span) (raw : Option Json) (value pattern : Json) :
    Load.node (encode (.literal span raw value pattern)) =
      .ok (.literal span raw value pattern) := by
  rw [encode]
  obtain ⟨own, hown⟩ : ∃ own : Entries String Json,
      own = [("value", value)] ++ regexEntry pattern ++ rawEntry raw := ⟨_, rfl⟩
  rw [← hown]
  have hloc : own.get? "loc" = none := by subst hown; cases raw <;> cases pattern <;> rfl
  have hraw : own.get? "raw" = raw := by subst hown; cases raw <;> cases pattern <;> rfl
  have hvalue : own.get? "value" = some value := by subst hown; rfl
  have hpattern : Load.patternField (entries "Literal" span own) = pattern := by
    rw [Load.patternField, get?_entries _ _ _ (by decide) (by decide)]
    subst hown
    cases raw <;> cases pattern <;> rfl
  refine load_entries .literal ?_ rfl hloc
  simp [Load.build, hraw, hvalue, hpattern]

theorem load_function {span : Option Span} {params : List (Param Node)} {body : Node}
    {id rest : Option Node} {flags : FunctionFlags}
    (h : ∀ child ∈ (function span params body id rest flags).children,
      Load.node child.encode = .ok child)
    (hplain : ∀ param ∈ params, param.target.isPattern = false) :
    Load.node (encode (.function span params body id rest flags)) =
      .ok (.function span params body id rest flags) := by
  simp only [children, List.forall_mem_append, List.forall_mem_singleton] at h
  obtain ⟨⟨⟨⟨htargets, hinitials⟩, hbody⟩, hid⟩, hrest⟩ := h
  have hattach := attach_targets hplain (encodeAll (params.map Param.target))
    (by rw [length_encodeAll, List.length_map])
  rw [encode, encodeTargets_eq, encodeInitials_eq]
  refine load_entries .function ?_
  simp [Load.build, Entries.get?, Load.itemsOf, Load.parametersOf, nodes_encodeHoles hinitials,
    nodes_encodeAll htargets, hattach, childOf_encode hbody, optionOf_encodeOption hid,
    optionOf_encodeOption hrest, Load.functionFlags, Load.flagField]

/-- Whether this is a function one of whose parameters is still a pattern. -/
def keepsPattern : Node → Bool
  | .function _ params _ _ _ _ => params.any (·.target.isPattern)
  | _ => false

/-- A node is read back if its children are. -/
theorem load_encode_of_children {node : Node} (hload : Load.Loaded node)
    (hplain : node.keepsPattern = false)
    (h : ∀ child ∈ node.children, Load.node child.encode = .ok child) :
    Load.node node.encode = .ok node := by
  cases node with
  | literal span raw value pattern => exact load_literal span raw value pattern
  | identifier span name =>
      rw [encode]
      refine load_entries .identifier ?_
      simp [Load.build, Load.nameField, Entries.get?]
  | array span elements =>
      rw [children] at h
      rw [encode]
      refine load_entries .array ?_
      simp [Load.build, Entries.get?, Load.itemsOf, nodes_encodeHoles h]
  | property span key value kind computed =>
      simp only [children, List.forall_mem_cons] at h
      obtain ⟨hkey, hvalue, -⟩ := h
      rw [encode]
      refine load_entries .property ?_
      simp [Load.build, Entries.get?, childOf_encode hkey, childOf_encode hvalue, Load.kindField,
        Load.flagField, Load.textField]
  | object span properties =>
      rw [children] at h
      rw [encode]
      refine load_entries .object ?_
      simp [Load.build, Entries.get?, itemsOf_encodeAll h]
  | member span base access computed =>
      simp only [children, List.forall_mem_cons] at h
      obtain ⟨hbase, haccess, -⟩ := h
      rw [encode]
      refine load_entries .member ?_
      simp [Load.build, Entries.get?, childOf_encode hbase, childOf_encode haccess, Load.flagField]
  | unary span operator argument leading =>
      rw [children, List.forall_mem_singleton] at h
      rw [encode]
      refine load_entries .unary ?_
      simp [Load.build, Entries.get?, childOf_encode h, Load.textField, Load.flagField]
  | binary span operator left right =>
      simp only [children, List.forall_mem_cons] at h
      obtain ⟨hleft, hright, -⟩ := h
      rw [encode]
      refine load_entries .binary ?_
      simp [Load.build, Entries.get?, childOf_encode hleft, childOf_encode hright, Load.textField]
  | conditional span test consequent alternate =>
      simp only [children, List.forall_mem_cons] at h
      obtain ⟨htest, hconsequent, halternate, -⟩ := h
      rw [encode]
      refine load_entries .conditional ?_
      simp [Load.build, Entries.get?, childOf_encode htest, childOf_encode hconsequent,
        childOf_encode halternate]
  | call span callee arguments =>
      simp only [children, List.forall_mem_cons] at h
      obtain ⟨hcallee, harguments⟩ := h
      rw [encode]
      refine load_entries .call ?_
      simp [Load.build, Entries.get?, childOf_encode hcallee, itemsOf_encodeAll harguments]
  | construct span callee arguments =>
      simp only [children, List.forall_mem_cons] at h
      obtain ⟨hcallee, harguments⟩ := h
      rw [encode]
      refine load_entries .construct ?_
      simp [Load.build, Entries.get?, childOf_encode hcallee, itemsOf_encodeAll harguments]
  | function span params body id rest flags =>
      rw [keepsPattern, List.any_eq_false] at hplain
      exact load_function h (by simpa using hplain)
  | declarator d =>
      obtain ⟨span, target, init⟩ := d
      simp only [children, List.forall_mem_cons] at h
      rw [encode]
      refine load_entries .declarator ?_
      simp [Load.build, Entries.get?, childOf_encode h.1, optionOf_encodeOption h.2]
  | declaration span declarators kind =>
      rw [children] at h
      rw [encode, encodeDeclarators_eq]
      refine load_entries .declaration ?_
      simp [Load.build, Entries.get?, itemsOf_encodeAll h, declarators_map, Load.textField,
        -List.map_map]
  | assignment span operator left right =>
      simp only [children, List.forall_mem_cons] at h
      obtain ⟨hleft, hright, -⟩ := h
      rw [encode]
      refine load_entries .assignment ?_
      simp [Load.build, Entries.get?, childOf_encode hleft, childOf_encode hright, Load.textField]
  | update span operator argument leading =>
      rw [children, List.forall_mem_singleton] at h
      rw [encode]
      refine load_entries .update ?_
      simp [Load.build, Entries.get?, childOf_encode h, Load.textField, Load.flagField]
  | sequence span expressions =>
      rw [children] at h
      rw [encode]
      refine load_entries .sequence ?_
      simp [Load.build, Entries.get?, itemsOf_encodeAll h]
  | block span body =>
      rw [children] at h
      rw [encode]
      refine load_entries .block ?_
      simp [Load.build, Entries.get?, itemsOf_encodeAll h]
  | expressionStatement span inner =>
      rw [children, List.forall_mem_singleton] at h
      rw [encode]
      refine load_entries .expressionStatement ?_
      simp [Load.build, Entries.get?, childOf_encode h]
  | conditionalStatement span test consequent alternate =>
      simp only [children, List.forall_mem_cons] at h
      obtain ⟨htest, hconsequent, halternate⟩ := h
      rw [encode]
      refine load_entries .conditionalStatement ?_
      simp [Load.build, Entries.get?, childOf_encode htest, childOf_encode hconsequent,
        optionOf_encodeOption halternate]
  | whileLoop span test body =>
      simp only [children, List.forall_mem_cons] at h
      obtain ⟨htest, hbody, -⟩ := h
      rw [encode]
      refine load_entries .whileLoop ?_
      simp [Load.build, Entries.get?, childOf_encode htest, childOf_encode hbody]
  | doWhileLoop span body test =>
      simp only [children, List.forall_mem_cons] at h
      obtain ⟨hbody, htest, -⟩ := h
      rw [encode]
      refine load_entries .doWhileLoop ?_
      simp [Load.build, Entries.get?, childOf_encode hbody, childOf_encode htest]
  | forLoop span init test step body =>
      simp only [children, List.forall_mem_append, List.forall_mem_singleton] at h
      obtain ⟨⟨⟨hinit, htest⟩, hstep⟩, hbody⟩ := h
      rw [encode]
      refine load_entries .forLoop ?_
      simp [Load.build, Entries.get?, optionOf_encodeOption hinit, optionOf_encodeOption htest,
        optionOf_encodeOption hstep, childOf_encode hbody]
  | forInLoop span left right body =>
      simp only [children, List.forall_mem_cons] at h
      obtain ⟨hleft, hright, hbody, -⟩ := h
      rw [encode]
      refine load_entries .forInLoop ?_
      simp [Load.build, Entries.get?, childOf_encode hleft, childOf_encode hright,
        childOf_encode hbody]
  | throwStatement span argument =>
      rw [children, List.forall_mem_singleton] at h
      rw [encode]
      refine load_entries .throwStatement ?_
      simp [Load.build, Entries.get?, childOf_encode h]
  | empty span =>
      rw [encode]
      exact load_entries .empty rfl
  | program span body =>
      rw [children] at h
      rw [encode]
      refine load_entries .program ?_
      simp [Load.build, Entries.get?, itemsOf_encodeAll h]
  | unsupported span tag payload =>
      obtain ⟨v, hv⟩ := hload
      rw [encode, ← (Load.node_eq_unsupported hv).1]
      exact hv

/-- **Reading what is written of a tree gives the tree back.** -/
theorem encode_faithful {v : Json} {tree : Node} (hload : Node.load v = .ok tree)
    (hplain : ∀ node ∈ tree.walk, node.keepsPattern = false) :
    Node.load tree.encode = .ok tree := by
  have hloaded : Load.Loaded tree := ⟨v, hload⟩
  clear hload
  induction tree using induction_children with
  | step node ih =>
      refine load_encode_of_children hloaded (hplain node node.mem_walk_self) fun child hchild => ?_
      exact ih child hchild (fun n hn => hplain n (mem_walk_of_mem_children hchild hn))
        (Load.loaded_of_mem_children hloaded hchild)

/-- A function as a parser writes it: a default value and the remaining arguments as patterns, and
a place with a text and a truth value for numbers. -/
def variadicSource : Json :=
  .obj [
    ("type", .str "FunctionExpression"),
    ("params", .arr [
      .obj [
        ("type", .str "AssignmentPattern"),
        ("left", .obj [("type", .str "Identifier"), ("name", .str "x")]),
        ("right", .obj [("type", .str "Literal"), ("value", .int 1), ("raw", .str "1.0")])],
      .obj [
        ("type", .str "RestElement"),
        ("argument", .obj [("type", .str "Identifier"), ("name", .str "more")])]]),
    ("body", .obj [
      ("type", .str "BlockStatement"),
      ("body", .arr [.obj [("type", .str "ReturnStatement"), ("argument", .null)]])]),
    ("async", .int 1),
    ("loc", .obj [
      ("start", .obj [("line", .str "3")]),
      ("end", .obj [("line", .int 4), ("column", .bool true)])])]

/-- The function of `variadicSource`. -/
def variadic : Node :=
  .function (some ⟨3, 0, 4, 1⟩)
    [⟨.identifier none "x", some (.literal none (some (.str "1.0")) (.int 1) .null)⟩]
    (.block none
      [.unsupported none "ReturnStatement" [("type", .str "ReturnStatement"), ("argument", .null)]])
    none (some (.identifier none "more"))
    { generator := false, expression := false, async := true }

theorem encode_faithful_variadic :
    Node.load variadicSource = .ok variadic ∧
      (∀ node ∈ variadic.walk, node.keepsPattern = false) ∧
      Node.load variadic.encode = .ok variadic :=
  have hload : Node.load variadicSource = .ok variadic := rfl
  have hplain : ∀ node ∈ variadic.walk, node.keepsPattern = false := by decide
  ⟨hload, hplain, encode_faithful hload hplain⟩

end Node

end PfaScript
