import PfaScript.Compile.Constant

/-!
# Expressions and statements

How the expressions and statements of a script become terms of a document. Composite terms carry a
location marker; names and plain values stand for themselves.

Functions can be given in two places only, as an argument of a call and as the value assigned to an
attribute path (`Node.operand`): in full, as `function(x = "double") { ... } >> "double"`, where the
default values are the types of the parameters and `>>` is followed by the type of the result, or by
name, as `fcn("name")` or `fcn(name)`.

All functions below descend into the node they are given. Where one hands the same node on to
another, the second component of the measure decreases: a body is a statement, a statement may be an
expression, and an operand or the base of an attribute path is an expression unless it has a form of
its own.
-/

namespace PfaScript

/-! ### Names of functions

Functions are called by names known in advance. A name is an identifier, or names joined by points:
`a.b.c` calls the function named `a.b.c`. Computed accesses and all other callees are refused. -/

/-- The function that a callee names. -/
def Node.functionName : Node → Except Fault String
  | .identifier _ name => .ok name
  | .member span base access computed =>
    if computed then .error ⟨.functionName, span⟩ else do
    let left ← base.functionName
    let right ← access.functionName
    return left ++ "." ++ right
  | node => .error ⟨.functionName, node.span⟩

/-! ### Operators -/

/-- The function for a unary operator. -/
def unaryFunction? : String → Option String
  | "-" => some "u-"
  | "!" => some "not"
  | "u-" => some "u-"
  | "not" => some "not"
  | "~" => some "~"
  | _ => none

/-- The binary operators that are functions of the same name. -/
def plainBinaryFunctions : List String :=
  ["+", "-", "*", "/", "%%", "==", "!=", "<", ">", "<=", ">=", "and", "or", "&", "^", "|"]

/-- The function for a binary operator. The operator `%` gives a remainder with the sign of the
dividend, which is the function `%%`. -/
def binaryFunction? : String → Option String
  | "%" => some "%%"
  | "&&" => some "and"
  | "||" => some "or"
  | operator => if plainBinaryFunctions.contains operator then some operator else none

/-- The function that a compound assignment applies. -/
def compoundFunction? : String → Option String
  | "+=" => some "+"
  | "-=" => some "-"
  | "*=" => some "*"
  | "/=" => some "/"
  | _ => none

/-- The function that `++` or `--` applies. -/
def updateFunction? : String → Option String
  | "++" => some "+"
  | "--" => some "-"
  | _ => none

/-- Whether an assignment operator is known. -/
def isAssignmentOperator (operator : String) : Bool :=
  operator = "=" || (compoundFunction? operator).isSome

/-! ### Terms made of terms -/

/-- A term that applies the named function. -/
def application (span : Option Span) (function : String) (arguments : List Json) : Json :=
  tagged span [(function, .arr arguments)]

/-- A term that reads the part of `base` that the path leads to. -/
def attributeEntries (span : Option Span) (base : Json) (path : List Json) : Entries String Json :=
  taggedEntries span [("attr", base), ("path", .arr path)]

/-- Whether a term defines a function. -/
def Json.isFunctionDefinition : Json → Bool
  | .obj fields => Entries.contains fields "params" && Entries.contains fields "ret"
  | _ => false

/-- The value that an assignment stores, given the term for the target and the one on the right: a
compound assignment combines the two. -/
def assigned (span : Option Span) (operator : String) (target value : Json) :
    Except Fault Json :=
  match compoundFunction? operator with
  | none => .ok value
  | some function =>
    if value.isFunctionDefinition then .error ⟨.functionUpdate operator, span⟩
    else .ok (application span function [target, value])

/-- The value that `++` or `--` stores in a variable. -/
def updated (span : Option Span) (operator name : String) (fault : Fault) : Except Fault Json :=
  match updateFunction? operator with
  | some function => .ok (application span function [.str name, .int 1])
  | none => .error fault

/-- One branch of a conditional statement. -/
def branch (span : Option Span) (test : Json) (consequent : List Json) : Entries String Json :=
  taggedEntries span [("if", test), ("then", .arr consequent)]

/-- A conditional statement: a single branch stands for itself, several make one choice. -/
def conditionalTerm (span : Option Span) (first : Entries String Json)
    (others : List (Entries String Json)) (otherwise : Option (List Json)) : Json :=
  let whole := match others with
    | [] => first
    | _ => taggedEntries span [("cond", .arr ((first :: others).map Json.obj))]
  match otherwise with
  | some body => .obj (Entries.insert whole "else" (.arr body))
  | none => .obj whole

namespace Node

/-! ### Shapes of nodes -/

/-- Whether a node defines a function in full. -/
def isDefinition : Node → Bool
  | .binary _ ">>" (.function ..) _ => true
  | _ => false

/-- The function that a node refers to by name. -/
def functionReference? : Node → Option String
  | .call _ (.identifier _ "fcn") [argument] => argument.name?
  | _ => none

/-- Whether a node can be a step of a `for` loop: an assignment to a variable. -/
def isStep : Node → Bool
  | .assignment _ operator (.identifier ..) _ => isAssignmentOperator operator
  | .update _ operator (.identifier ..) _ => (updateFunction? operator).isSome
  | _ => false

/-- The parts of the step of a `for` loop. -/
def stepParts : Option Node → List Node
  | some (.sequence _ parts) => parts
  | some part => [part]
  | none => []

/-- The variable of a `for`-`in` loop. -/
def loopVariable? : Node → Option String
  | .declaration _ [⟨_, .identifier _ name, none⟩] "var" => some name
  | _ => none

/-- Whether a node can be the type of a new value. -/
def isTypeLiteral : Node → Bool
  | .array .. => true
  | .object .. => true
  | node => node.text?.isSome

/-- Whether a function is anonymous, takes no further arguments and is written plainly. -/
def isPlainFunction (id rest : Option Node) (flags : FunctionFlags) : Bool :=
  id.isNone && rest.isNone && !flags.generator && !flags.async && !flags.expression

/-- The parameters of a function definition with their types. -/
def typedParams : List (Param Node) → Except Fault (List Json)
  | [] => .ok []
  | ⟨.identifier _ name, some type⟩ :: rest => do
    let type ← type.constant
    return .obj [(name, type)] :: (← typedParams rest)
  | ⟨.identifier span name, none⟩ :: _ => .error ⟨.untypedParameter name, span⟩
  | ⟨target, _⟩ :: _ => .error ⟨.functionParameter, target.span⟩

/-! ### Terms of nodes -/

mutual

/-- The term of an expression. -/
def term : Node → Except Fault Json
  | .literal span _ value pattern =>
    if pattern.isText then .error ⟨.patternExpression, span⟩ else
    match value with
    | .str text => .ok (tagged span [("string", .str text)])
    | value => .ok value
  | .identifier _ name => .ok (.str name)
  | .member span base access computed => do
    let (root, path) ← accesses span base access computed
    return .obj (attributeEntries span root path)
  | .unary span operator argument _ =>
    match unaryFunction? operator with
    | none => .error ⟨.unaryOperator operator, span⟩
    | some name => do
      let argument ← term argument
      return application span name [argument]
  | .binary span operator left right =>
    match binaryFunction? operator with
    | none => .error ⟨.binaryOperator operator, span⟩
    | some name => do
      let left ← term left
      let right ← term right
      return application span name [left, right]
  | .conditional span test consequent alternate => do
    let test ← term test
    let consequent ← term consequent
    let alternate ← term alternate
    return tagged span [("if", test), ("then", consequent), ("else", alternate)]
  | .call span callee arguments => do
    let name ← callee.functionName
    if name = "cell" then stateAccess span .cells 3 arguments
    else if name = "pool" then stateAccess span .pools 4 arguments
    else if name = "doc" then
      match arguments.map text? with
      | [some text] => return tagged span [("doc", .str text)]
      | _ => .error ⟨.docArguments, span⟩
    else
      let arguments ← operands arguments
      return application span (if name = "console.log" then "log" else name) arguments
  | .construct span (.identifier _ name) arguments =>
    if name = "Array" ∨ name = "Map" ∨ name = "Record" then
      match arguments with
      | [contents, type] => newValue span name contents type
      | _ => .error ⟨.constructorArity name, span⟩
    else .error ⟨.constructor, span⟩
  | .construct span _ _ => .error ⟨.constructor, span⟩
  | .declaration span declarators _ => do
    let bound ← bindings declarators
    return tagged span [("let", .obj (Entries.ofList bound))]
  | .update span operator (.identifier _ name) _ => do
    let value ← updated span operator name ⟨.updateTarget operator, span⟩
    return tagged span [("set", .obj [(name, value)])]
  | .update span operator _ _ => .error ⟨.updateTarget operator, span⟩
  | .assignment span operator (.identifier _ name) right =>
    if !isAssignmentOperator operator then .error ⟨.assignmentOperator operator, span⟩ else do
    let value ← term right
    let value ← assigned span operator (.str name) value
    return tagged span [("set", .obj [(name, value)])]
  | .assignment span operator (.member place base access computed) right =>
    if !isAssignmentOperator operator then .error ⟨.assignmentOperator operator, span⟩ else do
    let (root, path) ← accesses place base access computed
    let target := attributeEntries place root path
    let value ← operand right
    let value ← assigned span operator (.obj target) value
    return .obj (target.insert "to" value)
  | .assignment span operator _ _ =>
    if !isAssignmentOperator operator then .error ⟨.assignmentOperator operator, span⟩
    else .error ⟨.assignmentTarget, span⟩
  | .sequence span items => do
    let bound ← assignments items
    return tagged span [("set", .obj (Entries.ofList bound))]
  | .block span body => do
    let body ← statements body
    return tagged span [("do", .arr body)]
  | node => .error ⟨.construct node.tag, node.span⟩
termination_by node => (sizeOf node, 0)
decreasing_by all_goals simp +arith [Prod.lex_def]

/-- The term of an expression in a place where a function can be given too. -/
def operand (node : Node) : Except Fault Json :=
  if node.isDefinition then definition node
  else match node.functionReference? with
    | some name => .ok (tagged node.span [("fcn", .str name)])
    | none => term node
termination_by (sizeOf node, 2)
decreasing_by all_goals simp +arith [Prod.lex_def]

/-- The definition of a function. -/
def definition : Node → Except Fault Json
  | .binary span ">>" (.function place params (.block _ body) id rest flags) type =>
    if isPlainFunction id rest flags then do
      let params ← typedParams params
      let type ← type.constant
      let body ← statements body
      return tagged span [("params", .arr params), ("ret", type), ("do", .arr body)]
    else .error ⟨.functionShape, place⟩
  | .binary _ ">>" (.function place ..) _ => .error ⟨.functionShape, place⟩
  | node => .error ⟨.functionForm, node.span⟩
termination_by node => (sizeOf node, 1)
decreasing_by all_goals simp +arith [Prod.lex_def]

/-- The terms of the elements of an array without holes. -/
def elementTerms : List (Option Node) → Except Fault (List Json)
  | [] => .ok []
  | none :: rest => elementTerms rest
  | some node :: rest => do
    let first ← term node
    return first :: (← elementTerms rest)
termination_by elements => (sizeOf elements, 0)
decreasing_by all_goals simp +arith [Prod.lex_def]

/-- The terms of the entries of an object literal. -/
def entryTerms : List Node → Except Fault (List (String × Json))
  | [] => .ok []
  | .property span key value kind computed :: rest => do
    let name ← propertyKey span key kind computed
    let first ← term value
    return (name, first) :: (← entryTerms rest)
  | node :: _ => .error ⟨.objectKey, node.span⟩
termination_by entries => (sizeOf entries, 0)
decreasing_by all_goals simp +arith [Prod.lex_def]

/-- The terms of the arguments of a call. -/
def operands : List Node → Except Fault (List Json)
  | [] => .ok []
  | node :: rest => do
    let first ← operand node
    return first :: (← operands rest)
termination_by nodes => (sizeOf nodes, 0)
decreasing_by all_goals simp +arith [Prod.lex_def]

/-- The base of a member access and the path from it, in source order. The accesses are compiled
from the last to the first, and then the base. -/
def accesses (span : Option Span) (base access : Node) (computed : Bool) :
    Except Fault (Json × List Json) := do
  let step ←
    if computed then term access
    else match access with
      | .identifier place name => .ok (tagged place [("string", .str name)])
      | _ => .error ⟨.memberAccess, span⟩
  let (root, path) ← chain base
  return (root, path ++ [step])
termination_by (1 + sizeOf base + sizeOf access, 0)
decreasing_by all_goals simp +arith [Prod.lex_def]

/-- The base of a chain of member accesses and the path from it; any other expression is a base with
an empty path. -/
def chain : Node → Except Fault (Json × List Json)
  | .member span base access computed => accesses span base access computed
  | node => do return (← term node, [])
termination_by node => (sizeOf node, 1)
decreasing_by all_goals simp +arith [Prod.lex_def]

/-- A call that reads or writes a slot of a store: its name, then optionally a path into it, a new
value and, in a pool, an initial value. -/
def stateAccess (span : Option Span) (store : Store) (most : Nat) (arguments : List Node) :
    Except Fault Json :=
  if most < arguments.length then .error ⟨.stateArity store most, span⟩ else
  match arguments with
  | [] => .error ⟨.stateArity store most, span⟩
  | slot :: rest =>
    match slot.name? with
    | none => .error ⟨.stateName store, slot.span⟩
    | some name => do
      let path ← statePath store rest
      let changes ← stateChanges rest
      return tagged span ((store.slot, .str name) :: path ++ changes)
termination_by (sizeOf arguments, 1)
decreasing_by all_goals simp +arith [Prod.lex_def]

/-- The path of a state access, from the arguments after the name. -/
def statePath (store : Store) : List Node → Except Fault (Entries String Json)
  | [] => .ok []
  | .array span elements :: _ =>
    if elements.any Option.isNone then .error ⟨.statePath store, span⟩ else do
    return [("path", .arr (← elementTerms elements))]
  | node :: _ => .error ⟨.statePath store, node.span⟩
termination_by arguments => (sizeOf arguments, 0)
decreasing_by all_goals simp +arith [Prod.lex_def]

/-- The new and initial value of a state access, from the arguments after the name. -/
def stateChanges : List Node → Except Fault (Entries String Json)
  | _ :: value :: rest => do
    let value ← operand value
    match rest with
    | [initial] => do
      let initial ← operand initial
      return [("to", value), ("init", initial)]
    | _ => return [("to", value)]
  | _ => .ok []
termination_by arguments => (sizeOf arguments, 0)
decreasing_by all_goals simp +arith [Prod.lex_def]

/-- A new array, map or record with its type. -/
def newValue (span : Option Span) (name : String) (contents type : Node) : Except Fault Json :=
  let brackets := if name = "Array" then "square" else "curly"
  let checkType : Except Fault Unit :=
    if type.isTypeLiteral then .ok () else .error ⟨.constructorType name, type.span⟩
  match contents with
  | .array place elements =>
    if name = "Array" then do
      checkType
      if elements.any Option.isNone then .error ⟨.constructorHole, place⟩ else
      let items ← elementTerms elements
      let type ← type.constant
      return tagged span [("new", .arr items), ("type", type)]
    else .error ⟨.constructorContents name brackets, place⟩
  | .object place properties =>
    if name = "Array" then .error ⟨.constructorContents name brackets, place⟩ else do
    checkType
    let entries ← entryTerms properties
    let type ← type.constant
    return tagged span [("new", .obj (Entries.ofList entries)), ("type", type)]
  | node => .error ⟨.constructorContents name brackets, node.span⟩
termination_by (sizeOf contents, 1)
decreasing_by all_goals simp +arith [Prod.lex_def]

/-- The variables of a declaration with their initial values, as they are written. -/
def bindings : List (Declarator Node) → Except Fault (List (String × Json))
  | [] => .ok []
  | ⟨_, .identifier _ name, some init⟩ :: rest => do
    let value ← term init
    return (name, value) :: (← bindings rest)
  | ⟨span, .identifier _ name, none⟩ :: _ => .error ⟨.uninitialized name, span⟩
  | ⟨span, _, _⟩ :: _ => .error ⟨.declarationTarget, span⟩
termination_by declarators => (sizeOf declarators, 0)
decreasing_by all_goals simp +arith [Prod.lex_def]

/-- The variables of comma-separated assignments with their new values, as they are written. -/
def assignments : List Node → Except Fault (List (String × Json))
  | [] => .ok []
  | .assignment span operator left right :: rest =>
    if operator ≠ "=" then .error ⟨.sequenceOperator operator, span⟩ else
    match left with
    | .identifier _ name => do
      let value ← term right
      return (name, value) :: (← assignments rest)
    | _ => .error ⟨.sequenceTarget, span⟩
  | node :: _ => .error ⟨.sequenceItem, node.span⟩
termination_by items => (sizeOf items, 0)
decreasing_by all_goals simp +arith [Prod.lex_def]

/-- The terms of a list of statements; those that leave nothing behind are left out. -/
def statements : List Node → Except Fault (List Json)
  | [] => .ok []
  | node :: rest => do
    let first ← statement node
    let others ← statements rest
    return if first.isNull then others else first :: others
termination_by nodes => (sizeOf nodes, 0)
decreasing_by all_goals simp +arith [Prod.lex_def]

/-- The term of a statement, which is null if the statement leaves nothing behind. -/
def statement : Node → Except Fault Json
  | .expressionStatement _ inner => term inner
  | .conditionalStatement span test consequent alternate => do
    let test ← term test
    let consequent ← statementBody consequent
    let (others, otherwise) ← alternatives alternate
    return conditionalTerm span (branch span test consequent) others otherwise
  | .whileLoop span test body => do
    let test ← term test
    let body ← statementBody body
    return tagged span [("while", test), ("do", .arr body)]
  | .doWhileLoop span body test => do
    let negated ← term test
    let stop := tagged test.span [("not", negated)]
    let body ← statementBody body
    return tagged span [("do", .arr body), ("until", stop)]
  | .forLoop span (some (.declaration _ declarators _)) test step body => do
    let bound ← bindings declarators
    let parts := stepParts step
    if parts.isEmpty || !parts.all isStep then
      .error ⟨.forStep, (step.map Node.span).getD span⟩
    else
      let changes ← match step with
        | some (.sequence _ parts) => steps parts
        | some part => steps [part]
        | none => .ok []
      let test ← match test with
        | some test => term test
        | none => .ok (.bool true)
      let body ← statementBody body
      return tagged span [("for", .obj (Entries.ofList bound)), ("while", test),
        ("step", .obj (Entries.ofList changes)), ("do", .arr body)]
  | .forLoop span init _ _ _ => .error ⟨.forInit, (init.map Node.span).getD span⟩
  | .forInLoop span left right body =>
    match left.loopVariable? with
    | none => .error ⟨.forInTarget, left.span⟩
    | some name => do
      let collection ← term right
      let body ← statementBody body
      return tagged span [("foreach", .str name), ("in", collection), ("do", .arr body)]
  | .throwStatement span argument =>
    match argument.text? with
    | some text => .ok (tagged span [("error", .str text)])
    | none => .error ⟨.thrown, span⟩
  | .empty _ => .ok .null
  | .declaration span declarators kind => term (.declaration span declarators kind)
  | .assignment span operator left right => term (.assignment span operator left right)
  | .sequence span items => term (.sequence span items)
  | .block span body => term (.block span body)
  | node => .error ⟨.statement node.tag, node.span⟩
termination_by node => (sizeOf node, 1)
decreasing_by all_goals simp +arith [Prod.lex_def]

/-- The terms of a statement's body: a block's statements, or one statement. -/
def statementBody : Node → Except Fault (List Json)
  | .block _ body => statements body
  | node => do
    let only ← statement node
    return if only.isNull then [] else [only]
termination_by node => (sizeOf node, 2)
decreasing_by all_goals simp +arith [Prod.lex_def]

/-- The further branches of a conditional statement, and what is done if none of them applies. -/
def alternatives :
    Option Node → Except Fault (List (Entries String Json) × Option (List Json))
  | none => .ok ([], none)
  | some (.conditionalStatement span test consequent alternate) => do
    let test ← term test
    let consequent ← statementBody consequent
    let (others, otherwise) ← alternatives alternate
    return (branch span test consequent :: others, otherwise)
  | some node => do return ([], some (← statementBody node))
termination_by alternate => (sizeOf alternate, 3)
decreasing_by all_goals simp +arith [Prod.lex_def]

/-- The variable that a step of a `for` loop changes, and its new value. -/
def stepChange : Node → Except Fault (String × Json)
  | .assignment span operator (.identifier _ name) right => do
    let value ← term right
    return (name, ← assigned span operator (.str name) value)
  | .update span operator (.identifier _ name) _ => do
    return (name, ← updated span operator name ⟨.forStep, span⟩)
  | node => .error ⟨.forStep, node.span⟩
termination_by node => (sizeOf node, 0)
decreasing_by all_goals simp +arith [Prod.lex_def]

/-- The variables that the steps of a `for` loop change, as they are written. -/
def steps : List Node → Except Fault (List (String × Json))
  | [] => .ok []
  | node :: rest => do
    let first ← stepChange node
    return first :: (← steps rest)
termination_by nodes => (sizeOf nodes, 0)
decreasing_by all_goals simp +arith [Prod.lex_def]

end

end Node

end PfaScript
