import PfaScript.Compile.Document
import PfaScript.Proofs.Equation

/-!
# Compilation with partial operations

The compiler takes a tree apart by its constructs, so none of its steps can be applied to something
it is not made for. The same compilation can be written with operations that are partial: the entry
of a mapping under a key, the item of a list at a place, the text of a literal, the body of a block.
Each is then preceded by a check that should make it safe, and these checks may stand far from the
operation: a `for` loop tests the shape of its steps, compiles them as expressions and reads the
variables that they set out of the terms.

`Guarded.compile` is the compiler written in this way. A partial operation outside its domain is a
`Guarded.Breach`, which is a failure of its own beside the faults of the script. That no script
leads to a breach is shown in `PfaScript.Proofs.NoBreach`.
-/

namespace PfaScript

namespace Guarded

/-- A partial operation outside its domain. -/
inductive Breach where
  /-- A mapping has no entry under this key. -/
  | key (key : String)
  /-- A value is used as a mapping and is none. -/
  | mapping
  /-- A list or text has nothing at this place. -/
  | place (index : Nat)
  /-- A node with this tag has no such part. -/
  | part (tag : String)
  /-- Two parallel lists differ in length. -/
  | lengths
  /-- A value is used as an integer and is none. -/
  | integer
deriving DecidableEq, Repr

/-- How a computation with partial operations fails: at a fault of its input, or at a breach. -/
inductive Failure (ε : Type) where
  | fault (fault : ε)
  | breach (breach : Breach)
deriving DecidableEq, Repr

variable {ε α β : Type}

/-- A computation without partial operations, as one with them. -/
def lift (x : Except ε α) : Except (Failure ε) α :=
  x.mapError .fault

@[simp] theorem lift_ok (a : α) : lift (.ok a : Except ε α) = .ok a := rfl

@[simp] theorem lift_error (e : ε) : lift (.error e : Except ε α) = .error (.fault e) := rfl

theorem lift_bind (x : Except ε α) (f : α → Except ε β) :
    lift (x >>= f) = lift x >>= fun a => lift (f a) := by
  cases x <;> rfl

/-! ### Partial operations -/

/-- The entry of a mapping under a key. -/
def entryAt (key : String) : Json → Except (Failure ε) Json
  | .obj fields =>
    match Entries.get? fields key with
    | some value => .ok value
    | none => .error (.breach (.key key))
  | _ => .error (.breach .mapping)

/-- All entries of a mapping. -/
def entriesOf : Json → Except (Failure ε) (Entries String Json)
  | .obj fields => .ok fields
  | _ => .error (.breach .mapping)

/-- A mapping with one entry written. -/
def withEntry (key : String) (value : Json) : Json → Except (Failure ε) Json
  | .obj fields => .ok (.obj (Entries.insert fields key value))
  | _ => .error (.breach .mapping)

/-- The item of a list at a place. -/
def itemAt : (items : List α) → Nat → Except (Failure ε) {item : α // item ∈ items}
  | [], place => .error (.breach (.place place))
  | item :: _, 0 => .ok ⟨item, List.mem_cons_self⟩
  | _ :: rest, place + 1 => do
    let ⟨item, h⟩ ← itemAt rest place
    return ⟨item, List.mem_cons_of_mem _ h⟩

/-- The first character of a text. -/
def firstCharacter (text : String) : Except (Failure ε) String :=
  match text.toList with
  | c :: _ => .ok (String.singleton c)
  | [] => .error (.breach (.place 0))

/-- The text of a text literal. -/
def textOf : Node → Except (Failure ε) String
  | .literal _ _ (.str text) _ => .ok text
  | node => .error (.breach (.part node.tag))

/-- The node of the value of an object literal's entry. -/
def valueOf : (node : Node) → Except (Failure ε) {value : Node // sizeOf value < sizeOf node}
  | .property span key value kind computed => .ok ⟨value, by simp +arith⟩
  | node => .error (.breach (.part node.tag))

/-- The entries of an object literal. -/
def propertiesOf :
    (node : Node) → Except (Failure ε) {properties : List Node // sizeOf properties < sizeOf node}
  | .object span properties => .ok ⟨properties, by simp +arith⟩
  | node => .error (.breach (.part node.tag))

/-- The statements of a block. -/
def bodyOf : (node : Node) → Except (Failure ε) {body : List Node // sizeOf body < sizeOf node}
  | .block span body => .ok ⟨body, by simp +arith⟩
  | node => .error (.breach (.part node.tag))

/-- The function in a table under an operator. -/
def functionAt (table : String → Option String) (operator : String) : Except (Failure ε) String :=
  match table operator with
  | some function => .ok function
  | none => .error (.breach (.key operator))

/-- The integer that a number is. -/
def integerOf : Json → Except (Failure ε) Int
  | .int n => .ok n
  | .float x =>
    match x.toInt? with
    | some n => .ok n
    | none => .error (.breach .integer)
  | _ => .error (.breach .integer)

/-- Parameters and default values from two parallel lists, item by item. -/
def pairUp : List Node → List (Option Node) → Except (Failure ε) (List (Param Node))
  | [], [] => .ok []
  | target :: targets, initial :: initials => do
    return ⟨target, initial⟩ :: (← pairUp targets initials)
  | _, _ => .error (.breach .lengths)

/-- The parameters of a function are found again from the lists of their two parts. -/
theorem pairUp_map (params : List (Param Node)) :
    pairUp (params.map Param.target) (params.map Param.initial) =
      (.ok params : Except (Failure ε) (List (Param Node))) := by
  induction params with
  | nil => rfl
  | cons param rest ih =>
      rw [List.map_cons, List.map_cons, pairUp, ih]
      rfl

/-! ### Constants -/

/-- The key of an entry of an object literal. -/
def keyOf : Node → Except (Failure Fault) String
  | .property span key _ kind computed => lift (propertyKey span key kind computed)
  | node => .error (.fault ⟨.objectKey, node.span⟩)

mutual

/-- The value of a node that is a constant. -/
@[simp] def constant : Node → Except (Failure Fault) Json
  | .literal span _ value pattern =>
    if pattern.isText then .error (.fault ⟨.patternConstant, span⟩) else .ok value
  | .unary span operator argument _ =>
    match negatedLiteral? operator argument with
    | some number => .ok number
    | none => .error (.fault ⟨.notAConstant "UnaryExpression", span⟩)
  | .array span elements => do return .arr (← constants span elements)
  | .object span properties => do
    return tagged span (Entries.ofList (← constantEntries properties))
  | node => .error (.fault ⟨.notAConstant node.tag, node.span⟩)
termination_by node => sizeOf node

/-- The values of the elements of an array, which has no holes. -/
@[simp] def constants (span : Option Span) : List (Option Node) → Except (Failure Fault) (List Json)
  | [] => .ok []
  | none :: _ => .error (.fault ⟨.arrayHole, span⟩)
  | some element :: rest => do
    let first ← constant element
    return first :: (← constants span rest)
termination_by elements => sizeOf elements

/-- The entries of an object literal with constant values. -/
@[simp] def constantEntries : List Node → Except (Failure Fault) (List (String × Json))
  | [] => .ok []
  | node :: rest => do
    let name ← keyOf node
    let ⟨value, _⟩ ← valueOf node
    let first ← constant value
    return (name, first) :: (← constantEntries rest)
termination_by entries => sizeOf entries
decreasing_by all_goals simp only [List.cons.sizeOf_spec]; omega

end

/-- The parameters of a function definition with their types. -/
def typedParams : List (Param Node) → Except (Failure Fault) (List Json)
  | [] => .ok []
  | ⟨.identifier _ name, some type⟩ :: rest => do
    let type ← constant type
    return .obj [(name, type)] :: (← typedParams rest)
  | ⟨.identifier span name, none⟩ :: _ => .error (.fault ⟨.untypedParameter name, span⟩)
  | ⟨target, _⟩ :: _ => .error (.fault ⟨.functionParameter, target.span⟩)

/-! ### Assignments -/

/-- The value that an assignment stores, given the term for the target and the one on the right. -/
def combined (span : Option Span) (operator : String) (target value : Json) :
    Except (Failure Fault) Json :=
  if operator = "=" then .ok value
  else if value.isFunctionDefinition then .error (.fault ⟨.functionUpdate operator, span⟩)
  else do
    let function ← functionAt compoundFunction? operator
    return application span function [target, value]

/-- The term of an assignment: a name is set, and any other target is an attribute path that is
given its new value. -/
def stored (span : Option Span) (target value : Json) : Except (Failure Fault) Json :=
  match target with
  | .str name => .ok (tagged span [("set", .obj [(name, value)])])
  | target => withEntry "to" value target

/-! ### Terms of nodes -/

/-- Whether a node is an array literal. -/
def isArray : Node → Bool
  | .array .. => true
  | _ => false

/-- Whether a node is an object literal. -/
def isObject : Node → Bool
  | .object .. => true
  | _ => false

/-- The test that the contents of a new value with this name must pass. -/
def contentsTest (name : String) : Except (Failure ε) (Node → Bool) :=
  match name with
  | "Array" => .ok isArray
  | "Map" => .ok isObject
  | "Record" => .ok isObject
  | _ => .error (.breach (.key name))

/-- The term of a call of `doc`, whose only argument is a text. -/
def docTerm (span : Option Span) (arguments : List Node) : Except (Failure Fault) Json :=
  if arguments.length ≠ 1 then .error (.fault ⟨.docArguments, span⟩) else do
  let ⟨argument, _⟩ ← itemAt arguments 0
  if argument.text?.isNone then .error (.fault ⟨.docArguments, span⟩)
  else
    let text ← textOf argument
    return tagged span [("doc", .str text)]

/-- The step of an attribute path that a name after a point makes. -/
def namedStep (span : Option Span) : Node → Except (Failure Fault) Json
  | .identifier place name => .ok (tagged place [("string", .str name)])
  | _ => .error (.fault ⟨.memberAccess, span⟩)

mutual

/-- The term of an expression. -/
@[simp] def term : Node → Except (Failure Fault) Json
  | .literal span _ value pattern =>
    if pattern.isText then .error (.fault ⟨.patternExpression, span⟩)
    else .ok (literalTerm span value)
  | .identifier _ name => .ok (.str name)
  | .member span base access computed => do
    let (root, path) ← accesses span base access computed
    return .obj (attributeEntries span root path)
  | .unary span operator argument _ =>
    match unaryFunction? operator with
    | none => .error (.fault ⟨.unaryOperator operator, span⟩)
    | some name => do
      let argument ← term argument
      return application span name [argument]
  | .binary span operator left right =>
    match binaryFunction? operator with
    | none => .error (.fault ⟨.binaryOperator operator, span⟩)
    | some name => do
      let left ← term left
      let right ← term right
      return application span name [left, right]
  | .conditional span test consequent alternate => do
    let test ← term test
    let consequent ← term consequent
    let alternate ← term alternate
    return tagged span [("if", test), ("then", consequent), ("else", alternate)]
  | .call span callee arguments => do
    let name ← lift callee.functionName
    if name = "cell" then stateAccess span .cells 3 arguments
    else if name = "pool" then stateAccess span .pools 4 arguments
    else if name = "doc" then docTerm span arguments
    else
      let arguments ← operands arguments
      return application span (if name = "console.log" then "log" else name) arguments
  | .construct span callee arguments =>
    match callee with
    | .identifier _ name =>
      if name = "Array" ∨ name = "Map" ∨ name = "Record" then
        if arguments.length ≠ 2 then .error (.fault ⟨.constructorArity name, span⟩) else do
        let ⟨contents, _⟩ ← itemAt arguments 0
        let ⟨type, _⟩ ← itemAt arguments 1
        newValue span name contents type
      else .error (.fault ⟨.constructor, span⟩)
    | _ => .error (.fault ⟨.constructor, span⟩)
  | .declaration span declarators _ => do
    let bound ← bindings declarators
    return tagged span [("let", .obj (Entries.ofList bound))]
  | .update span operator argument _ =>
    match argument with
    | .identifier _ name =>
      if operator = "++" ∨ operator = "--" then do
        let function ← firstCharacter operator
        let value := application span function [.str name, .int 1]
        return tagged span [("set", .obj [(name, value)])]
      else .error (.fault ⟨.updateTarget operator, span⟩)
    | _ => .error (.fault ⟨.updateTarget operator, span⟩)
  | .assignment span operator left right =>
    if !isAssignmentOperator operator then .error (.fault ⟨.assignmentOperator operator, span⟩)
    else match left with
    | .identifier _ name => do
      let value ← term right
      let value ← combined span operator (.str name) value
      stored span (.str name) value
    | .member place base access computed => do
      let (root, path) ← accesses place base access computed
      let target := .obj (attributeEntries place root path)
      let value ← operand right
      let value ← combined span operator target value
      stored span target value
    | _ => .error (.fault ⟨.assignmentTarget, span⟩)
  | .sequence span items => do
    let bound ← assignments items
    return tagged span [("set", .obj (Entries.ofList bound))]
  | .block span body => do
    let body ← statements body
    return tagged span [("do", .arr body)]
  | node => .error (.fault ⟨.construct node.tag, node.span⟩)
termination_by node => (sizeOf node, 0)
decreasing_by all_goals first | (simp +arith [Prod.lex_def]; done) | decreasing_tactic

/-- The term of an expression in a place where a function can be given too. -/
def operand (node : Node) : Except (Failure Fault) Json :=
  if node.isDefinition then definition node
  else match node.functionReference? with
    | some name => .ok (tagged node.span [("fcn", .str name)])
    | none => term node
termination_by (sizeOf node, 2)
decreasing_by all_goals simp +arith [Prod.lex_def]

/-- The definition of a function. -/
@[simp] def definition : Node → Except (Failure Fault) Json
  | .binary span ">>" (.function place params body id rest flags) type =>
    if Node.isPlainFunction id rest flags && body.isBlock then do
      let pairs ← pairUp (params.map Param.target) (params.map Param.initial)
      let params ← typedParams pairs
      let type ← constant type
      let ⟨body, _⟩ ← bodyOf body
      let body ← statements body
      return tagged span [("params", .arr params), ("ret", type), ("do", .arr body)]
    else .error (.fault ⟨.functionShape, place⟩)
  | node => .error (.fault ⟨.functionForm, node.span⟩)
termination_by node => (sizeOf node, 1)

/-- The terms of the elements of an array without holes. -/
@[simp] def elementTerms : List (Option Node) → Except (Failure Fault) (List Json)
  | [] => .ok []
  | none :: rest => elementTerms rest
  | some node :: rest => do
    let first ← term node
    return first :: (← elementTerms rest)
termination_by elements => (sizeOf elements, 0)
decreasing_by all_goals simp +arith [Prod.lex_def]

/-- The terms of the entries of an object literal. -/
@[simp] def entryTerms : List Node → Except (Failure Fault) (List (String × Json))
  | [] => .ok []
  | node :: rest => do
    let name ← keyOf node
    let ⟨value, _⟩ ← valueOf node
    let first ← term value
    return (name, first) :: (← entryTerms rest)
termination_by entries => (sizeOf entries, 0)

/-- The terms of the arguments of a call. -/
@[simp] def operands : List Node → Except (Failure Fault) (List Json)
  | [] => .ok []
  | node :: rest => do
    let first ← operand node
    return first :: (← operands rest)
termination_by nodes => (sizeOf nodes, 0)
decreasing_by all_goals simp +arith [Prod.lex_def]

/-- The base of a member access and the path from it, in source order. -/
def accesses (span : Option Span) (base access : Node) (computed : Bool) :
    Except (Failure Fault) (Json × List Json) := do
  let step ← if computed then term access else namedStep span access
  let (root, path) ← chain base
  return (root, path ++ [step])
termination_by (1 + sizeOf base + sizeOf access, 0)
decreasing_by all_goals simp +arith [Prod.lex_def]

/-- The base of a chain of member accesses and the path from it. -/
@[simp] def chain : Node → Except (Failure Fault) (Json × List Json)
  | .member span base access computed => accesses span base access computed
  | node => do return (← term node, [])
termination_by node => (sizeOf node, 1)
decreasing_by all_goals simp +arith [Prod.lex_def]

/-- A call that reads or writes a slot of a store. -/
def stateAccess (span : Option Span) (store : Store) (most : Nat) (arguments : List Node) :
    Except (Failure Fault) Json :=
  if arguments.length < 1 ∨ most < arguments.length then
    .error (.fault ⟨.stateArity store most, span⟩)
  else do
    let ⟨slot, _⟩ ← itemAt arguments 0
    match slot.name? with
    | none => .error (.fault ⟨.stateName store, slot.span⟩)
    | some name =>
      let path ← pathEntry store arguments
      let changes ← changeEntries arguments
      return tagged span ((store.slot, .str name) :: path ++ changes)
termination_by (sizeOf arguments, 3)
decreasing_by all_goals simp +arith [Prod.lex_def]

/-- The path of a state access: its second argument, if there are so many. -/
def pathEntry (store : Store) (arguments : List Node) :
    Except (Failure Fault) (Entries String Json) :=
  if 2 ≤ arguments.length then do
    let ⟨path, _⟩ ← itemAt arguments 1
    statePath store path
  else .ok []
termination_by (sizeOf arguments, 2)

/-- The path of a state access that has one. -/
@[simp] def statePath (store : Store) : Node → Except (Failure Fault) (Entries String Json)
  | .array span elements =>
    if elements.any Option.isNone then .error (.fault ⟨.statePath store, span⟩) else do
    return [("path", .arr (← elementTerms elements))]
  | node => .error (.fault ⟨.statePath store, node.span⟩)
termination_by node => (sizeOf node, 0)
decreasing_by all_goals simp +arith [Prod.lex_def]

/-- The new and initial value of a state access: its third and fourth argument, if there are so
many. -/
def changeEntries (arguments : List Node) : Except (Failure Fault) (Entries String Json) := do
  let value ← if 3 ≤ arguments.length then operandAt "to" 2 arguments else .ok []
  let initial ← if arguments.length = 4 then operandAt "init" 3 arguments else .ok []
  return value ++ initial
termination_by (sizeOf arguments, 2)
decreasing_by all_goals simp +arith [Prod.lex_def]

/-- The argument at a place as the only entry of a mapping. -/
def operandAt (key : String) (place : Nat) (arguments : List Node) :
    Except (Failure Fault) (Entries String Json) := do
  let ⟨node, _⟩ ← itemAt arguments place
  return [(key, ← operand node)]
termination_by (sizeOf arguments, 1)

/-- A new array, map or record with its type. -/
def newValue (span : Option Span) (name : String) (contents type : Node) :
    Except (Failure Fault) Json := do
  let test ← contentsTest name
  let brackets := if name = "Array" then "square" else "curly"
  if !test contents then .error (.fault ⟨.constructorContents name brackets, contents.span⟩)
  else if !type.isTypeLiteral then .error (.fault ⟨.constructorType name, type.span⟩)
  else
    let value ← newContents contents
    let type ← constant type
    return tagged span [("new", value), ("type", type)]
termination_by (sizeOf contents, 2)
decreasing_by all_goals simp +arith [Prod.lex_def]

/-- The contents of a new value: what is no array is taken to be an object. -/
@[simp] def newContents : Node → Except (Failure Fault) Json
  | .array place elements =>
    if elements.any Option.isNone then .error (.fault ⟨.constructorHole, place⟩) else do
    return .arr (← elementTerms elements)
  | node => do
    let ⟨properties, _⟩ ← propertiesOf node
    return .obj (Entries.ofList (← entryTerms properties))
termination_by node => (sizeOf node, 1)

/-- The variables of a declaration with their initial values, as they are written. -/
@[simp] def bindings : List (Declarator Node) → Except (Failure Fault) (List (String × Json))
  | [] => .ok []
  | ⟨_, .identifier _ name, some init⟩ :: rest => do
    let value ← term init
    return (name, value) :: (← bindings rest)
  | ⟨span, .identifier _ name, none⟩ :: _ => .error (.fault ⟨.uninitialized name, span⟩)
  | ⟨span, _, _⟩ :: _ => .error (.fault ⟨.declarationTarget, span⟩)
termination_by declarators => (sizeOf declarators, 0)
decreasing_by all_goals simp +arith [Prod.lex_def]

/-- The variables of comma-separated assignments with their new values, as they are written. -/
@[simp] def assignments : List Node → Except (Failure Fault) (List (String × Json))
  | [] => .ok []
  | .assignment span operator left right :: rest =>
    if operator ≠ "=" then .error (.fault ⟨.sequenceOperator operator, span⟩) else
    match left with
    | .identifier _ name => do
      let value ← term right
      return (name, value) :: (← assignments rest)
    | _ => .error (.fault ⟨.sequenceTarget, span⟩)
  | node :: _ => .error (.fault ⟨.sequenceItem, node.span⟩)
termination_by items => (sizeOf items, 0)
decreasing_by all_goals simp +arith [Prod.lex_def]

/-- The terms of a list of statements; those that leave nothing behind are left out. -/
@[simp] def statements : List Node → Except (Failure Fault) (List Json)
  | [] => .ok []
  | node :: rest => do
    let first ← statement node
    let others ← statements rest
    return if first.isNull then others else first :: others
termination_by nodes => (sizeOf nodes, 0)
decreasing_by all_goals simp +arith [Prod.lex_def]

/-- The term of a statement. The variables of a `for` loop are read out of the term of their
declaration. -/
@[simp] def statement : Node → Except (Failure Fault) Json
  | .expressionStatement _ inner => term inner
  | .conditionalStatement span test consequent alternate => do
    let test ← term test
    let consequent ← statementBody consequent
    let (others, otherwise) ← alternatives alternate
    return conditionalTerm span (branch span test consequent) others otherwise
  | .whileLoop span test body => do
    let test ← term test
    let body ← statementBody body
    return tagged span [("while", test), ("do", .arr body)]
  | .doWhileLoop span body test => do
    let negated ← term test
    let stop := tagged test.span [("not", negated)]
    let body ← statementBody body
    return tagged span [("do", .arr body), ("until", stop)]
  | .forLoop span (some (.declaration place declarators kind)) test step body => do
    let declared ← term (.declaration place declarators kind)
    let bound ← entryAt "let" declared
    let parts := Node.stepParts step
    if parts.isEmpty || !parts.all Node.isStep then
      .error (.fault ⟨.forStep, Node.stepPlace span step⟩)
    else
      let changes ← match step with
        | some (.sequence _ parts) => steps [] parts
        | some part => steps [] [part]
        | none => .ok []
      let test ← match test with
        | some test => term test
        | none => .ok (.bool true)
      let body ← statementBody body
      return tagged span [("for", bound), ("while", test), ("step", .obj changes),
        ("do", .arr body)]
  | .forLoop span init _ _ _ => .error (.fault ⟨.forInit, (init.map Node.span).getD span⟩)
  | .forInLoop span left right body =>
    match left.loopVariable? with
    | none => .error (.fault ⟨.forInTarget, left.span⟩)
    | some name => do
      let collection ← term right
      let body ← statementBody body
      return tagged span [("foreach", .str name), ("in", collection), ("do", .arr body)]
  | .throwStatement span argument =>
    if argument.text?.isNone then .error (.fault ⟨.thrown, span⟩) else do
    let text ← textOf argument
    return tagged span [("error", .str text)]
  | .empty _ => .ok .null
  | .declaration span declarators kind => term (.declaration span declarators kind)
  | .assignment span operator left right => term (.assignment span operator left right)
  | .sequence span items => term (.sequence span items)
  | .block span body => term (.block span body)
  | node => .error (.fault ⟨.statement node.tag, node.span⟩)
termination_by node => (sizeOf node, 1)
decreasing_by all_goals simp +arith [Prod.lex_def]

/-- The terms of a statement's body: a block's statements, or one statement. -/
@[simp] def statementBody : Node → Except (Failure Fault) (List Json)
  | .block _ body => statements body
  | node => do
    let only ← statement node
    return if only.isNull then [] else [only]
termination_by node => (sizeOf node, 2)
decreasing_by all_goals simp +arith [Prod.lex_def]

/-- The further branches of a conditional statement, and what is done if none of them applies. -/
@[simp] def alternatives :
    Option Node → Except (Failure Fault) (List (Entries String Json) × Option (List Json))
  | none => .ok ([], none)
  | some (.conditionalStatement span test consequent alternate) => do
    let test ← term test
    let consequent ← statementBody consequent
    let (others, otherwise) ← alternatives alternate
    return (branch span test consequent :: others, otherwise)
  | some node => do return ([], some (← statementBody node))
termination_by alternate => (sizeOf alternate, 3)
decreasing_by all_goals simp +arith [Prod.lex_def]

/-- The variables that the steps of a `for` loop set, added to those `sofar`: they are read out of
the terms of the steps. -/
@[simp] def steps (sofar : Entries String Json) :
    List Node → Except (Failure Fault) (Entries String Json)
  | [] => .ok sofar
  | node :: rest => do
    let change ← term node
    let changed ← entryAt "set" change
    let changed ← entriesOf changed
    steps (sofar.update changed) rest
termination_by nodes => (sizeOf nodes, 0)
decreasing_by all_goals simp +arith [Prod.lex_def]

end

/-! ### Documents -/

/-- The entries of an object literal, with what is made of the key and the node of each. -/
def entriesWith (make : String → Node → Except (Failure Fault) Json) :
    List Node → Except (Failure Fault) (List (String × Json))
  | [] => .ok []
  | node :: rest => do
    let key ← keyOf node
    let ⟨value, _⟩ ← valueOf node
    let first ← make key value
    return (key, first) :: (← entriesWith make rest)

/-- One setting of a slot. -/
def setting (store : Store) (name key : String) (node : Node) : Except (Failure Fault) Json :=
  if !Slot.keys.contains key then .error (.fault ⟨.slotKey store name key, node.span⟩) else do
  let value ← constant node
  if Slot.flags.contains key && !Slot.isFlag value then
    .error (.fault ⟨.slotFlag store name key, node.span⟩)
  else return value

/-- The declaration of a slot. -/
def slotDeclaration (store : Store) (name : String) : Node → Except (Failure Fault) Json
  | .object span properties => do
    let given := Entries.ofList (← entriesWith (setting store name) properties)
    match (Slot.required store).find? (!given.contains ·) with
    | some key => .error (.fault ⟨.slotIncomplete store name key, span⟩)
    | none => return tagged span given
  | node => .error (.fault ⟨.slotShape store name, node.span⟩)

/-- The slots that a node declares. -/
def slots (store : Store) : Node → Except (Failure Fault) Json
  | .object span properties => do
    return tagged span (Entries.ofList (← entriesWith (slotDeclaration store) properties))
  | node => .error (.fault ⟨.storeShape store, node.span⟩)

/-- The parameters and the body of the function that a field is given. -/
def plainFunction (field : Field) : Node → Except (Failure Fault) (List (Param Node) × Node)
  | .function span params body id rest flags =>
    if Node.isPlainFunction id rest flags && body.isBlock then .ok (params, body)
    else .error (.fault ⟨.fieldFunction field.key, span⟩)
  | node => .error (.fault ⟨.fieldFunction field.key, node.span⟩)

/-- The statements of the body of a function. -/
def functionBody (body : Node) : Except (Failure Fault) Json := do
  let ⟨body, _⟩ ← bodyOf body
  return .arr (← statements body)

/-- Whether a number is not an integer. -/
def isFraction : Json → Bool
  | .float x => x.toInt?.isNone
  | _ => false

/-- The value of a field. Texts and names are told by their constructs, without partial
operations. -/
def value (field : Field) (node : Node) : Except (Failure Fault) Json :=
  match field with
  | .name | .doc | .method => lift (Document.value field node)
  | .input | .output | .zero | .metadata => constant node
  | .begin | .end => do
    let (params, body) ← plainFunction field node
    if !params.isEmpty then .error (.fault ⟨.fieldParameters field.key, node.span⟩)
    else functionBody body
  | .action => do
    let (params, body) ← plainFunction field node
    let pairs ← pairUp (params.map Param.target) (params.map Param.initial)
    let names ← lift (Document.actionParameters [] pairs)
    if "input" ∉ names then .error (.fault ⟨.actionInput, node.span⟩)
    else functionBody body
  | .fcns =>
    match node with
    | .object span properties => do
      return tagged span (Entries.ofList (← entriesWith (fun _ => definition) properties))
    | node => .error (.fault ⟨.functionsShape, node.span⟩)
  | .cells => slots .cells node
  | .pools => slots .pools node
  | .randseed =>
    match Document.constantNumber? node with
    | none => .error (.fault ⟨.randomSeed, node.span⟩)
    | some number =>
      if isFraction number then .error (.fault ⟨.randomSeed, node.span⟩) else do
      return .int (← integerOf number)
  | .options =>
    match node with
    | .object span properties => do
      return tagged span (Entries.ofList (← constantEntries properties))
    | node => .error (.fault ⟨.optionsShape, node.span⟩)

/-- What a statement adds to the document made of the statements before it. -/
def entry (document : Entries String Json) (statement : Node) :
    Except (Failure Fault) (String × Json) :=
  match Document.assignment? statement with
  | none => .error (.fault ⟨.topLevel, statement.span⟩)
  | some (key, node) =>
    match Field.ofKey? key with
    | none => .error (.fault ⟨.unknownField key, statement.span⟩)
    | some field =>
      if document.contains key then .error (.fault ⟨.repeatedField key, statement.span⟩) else do
      return (key, ← value field node)

/-- Adds the entries of the statements, in order. -/
def assemble (document : Entries String Json) :
    List Node → Except (Failure Fault) (Entries String Json)
  | [] => .ok document
  | statement :: rest => do
    let added ← entry document statement
    assemble (document ++ [added]) rest

/-- The document of a script, with all location markers. -/
def compile (program : Program) : Except (Failure Fault) (Entries String Json) := do
  let document ← assemble [] program.body
  match Document.incomplete? document with
  | some fault => .error (.fault fault)
  | none => .ok document

end Guarded

end PfaScript
