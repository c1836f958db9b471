import PfaScript.Json.Reader
import PfaScript.Script.Node
import PfaScript.Setting.Display

/-!
# Reading syntax trees

`Node.load` reads a syntax tree from its JSON form. Several dialects of that form are in use, and
all of them give the same trees: literals may have one tag or a tag for each type, and the default
values of a function's parameters may stand beside the parameters or in a list of their own.

A tree is read if its nodes have tags and the children that their constructs need; a construct with
an unknown tag is read whatever it holds. Children are read before the span of the node that holds
them, and in the order in which the construct names them, so of several faults the first in this
order is reported.
-/

namespace PfaScript

/-- Why a JSON value is not a syntax tree. -/
inductive Malformed where
  /-- A value of this type stands where a node is needed. -/
  | notANode (typeName : String)
  /-- A node has no tag. -/
  | missingTag
  /-- A node lacks a child. -/
  | missingChild (tag key : String)
  /-- A field that holds children is no list. -/
  | notAList (tag key : String)
  /-- An identifier has no name. -/
  | missingName
  /-- A declaration holds another construct. -/
  | notADeclarator (tag : String)
  /-- The whole tree is another construct than a program. -/
  | notAProgram (tag : String)
  /-- The file is not JSON at all. -/
  | invalidJson (path : String) (error : Json.ReadError)
deriving DecidableEq, Repr

/-- The wording of a fault in a syntax tree. -/
def Malformed.message : Malformed → String
  | .notANode typeName => s!"expected an ESTree node, found {typeName}"
  | .missingTag => "ESTree node is missing its 'type'"
  | .missingChild tag key => s!"{tag} node is missing '{key}'"
  | .notAList tag key => s!"{tag}.{key} must be a list"
  | .missingName => "Identifier node is missing 'name'"
  | .notADeclarator tag => s!"VariableDeclaration contains a {tag} instead of a declarator"
  | .notAProgram tag => s!"expected a Program node, found {tag}"
  | .invalidJson path error => s!"{path} is not valid JSON: {error.message}"

/-- Why no syntax tree was read. -/
inductive LoadError where
  | malformed (cause : Malformed)
  /-- A node's line or column is infinite. -/
  | infinitePosition
deriving DecidableEq, Repr

/-- The constructs of scripts, as far as they are read in different ways. -/
inductive Construct where
  | literal | typedLiteral | nullLiteral | regexLiteral | identifier | array | object | property
  | member | unary | binary | conditional | call | construct | function | declarator | declaration
  | assignment | update | sequence | block | expressionStatement | conditionalStatement | whileLoop
  | doWhileLoop | forLoop | forInLoop | throwStatement | empty | program
deriving DecidableEq, Repr

/-- The construct with this tag. -/
def Construct.ofTag? : String → Option Construct
  | "Literal" => some .literal
  | "StringLiteral" => some .typedLiteral
  | "NumericLiteral" => some .typedLiteral
  | "BooleanLiteral" => some .typedLiteral
  | "NullLiteral" => some .nullLiteral
  | "RegExpLiteral" => some .regexLiteral
  | "Identifier" => some .identifier
  | "ArrayExpression" => some .array
  | "ObjectExpression" => some .object
  | "Property" => some .property
  | "ObjectProperty" => some .property
  | "MemberExpression" => some .member
  | "UnaryExpression" => some .unary
  | "BinaryExpression" => some .binary
  | "LogicalExpression" => some .binary
  | "ConditionalExpression" => some .conditional
  | "CallExpression" => some .call
  | "NewExpression" => some .construct
  | "FunctionExpression" => some .function
  | "VariableDeclarator" => some .declarator
  | "VariableDeclaration" => some .declaration
  | "AssignmentExpression" => some .assignment
  | "UpdateExpression" => some .update
  | "SequenceExpression" => some .sequence
  | "BlockStatement" => some .block
  | "ExpressionStatement" => some .expressionStatement
  | "IfStatement" => some .conditionalStatement
  | "WhileStatement" => some .whileLoop
  | "DoWhileStatement" => some .doWhileLoop
  | "ForStatement" => some .forLoop
  | "ForInStatement" => some .forInLoop
  | "ThrowStatement" => some .throwStatement
  | "EmptyStatement" => some .empty
  | "Program" => some .program
  | _ => none

namespace Load

/-! ### Plain fields -/

/-- A field that is a text, whatever was given; `fallback` stands in for a missing one. -/
def textField (fields : Entries String Json) (key : String) (fallback : String) : String :=
  match fields.get? key with
  | some v => v.text
  | none => fallback

/-- A field that is a truth value, whatever was given; `fallback` stands in for a missing one. -/
def flagField (fields : Entries String Json) (key : String) (fallback : Bool := false) : Bool :=
  match fields.get? key with
  | some v => v.truthy
  | none => fallback

/-- The pattern of a literal that is a regular expression, and null for any other. -/
def patternField (fields : Entries String Json) : Json :=
  match fields.get? "regex" with
  | some (.obj regex) => (Entries.get? regex "pattern").getD .null
  | _ => .null

/-- The kind of an object literal's entry: a method is one whatever kind it says. -/
def kindField (fields : Entries String Json) : String :=
  if flagField fields "method" then "method" else textField fields "kind" "init"

/-- The span of a node. -/
def spanField (fields : Entries String Json) : Except LoadError (Option Span) :=
  match Span.ofLoc (fields.get? "loc") with
  | .ok span => .ok (some span)
  | .error .unusable => .ok none
  | .error .infinite => .error .infinitePosition

/-- The name of an identifier. -/
def nameField (fields : Entries String Json) : Except LoadError String :=
  match fields.get? "name" with
  | some (.str name) => .ok name
  | _ => .error (.malformed .missingName)

/-- How a function is written. -/
def functionFlags (fields : Entries String Json) : FunctionFlags where
  generator := flagField fields "generator"
  expression := flagField fields "expression"
  async := flagField fields "async"

/-- The declarators among the nodes of a declaration, which holds nothing else. -/
def declarators : List Node → Except LoadError (List (Declarator Node))
  | [] => .ok []
  | .declarator d :: rest => do return d :: (← declarators rest)
  | node :: _ => .error (.malformed (.notADeclarator node.tag))

/-! ### Nodes -/

mutual

/-- Reads a node. -/
def node : Json → Except LoadError Node
  | .obj fields =>
    match Entries.get? fields "type" with
    | some (.str tag) =>
      if tag.isEmpty then .error (.malformed .missingTag) else
      let build : Except LoadError (Option Span → Node) :=
        match Construct.ofTag? tag with
        | none => .ok (.unsupported · tag fields)
        | some .literal =>
          .ok (.literal · (Entries.get? fields "raw") ((Entries.get? fields "value").getD .null)
            (patternField fields))
        | some .typedLiteral =>
          .ok (.literal · none ((Entries.get? fields "value").getD .null) .null)
        | some .nullLiteral => .ok (.literal · none .null .null)
        | some .regexLiteral => .ok (.literal · none .null (.str (textField fields "pattern" "")))
        | some .identifier => do
          let name ← nameField fields
          return (.identifier · name)
        | some .array => do
          let elements ← items tag "elements" fields
          return (.array · elements)
        | some .object => do
          let properties ← items tag "properties" fields
          return (.object · properties.reduceOption)
        | some .property => do
          let key ← child tag "key" fields
          let value ← child tag "value" fields
          return (.property · key value (kindField fields) (flagField fields "computed"))
        | some .member => do
          let base ← child tag "object" fields
          let access ← child tag "property" fields
          return (.member · base access (flagField fields "computed"))
        | some .unary => do
          let argument ← child tag "argument" fields
          return (.unary · (textField fields "operator" "None") argument
            (flagField fields "prefix" true))
        | some .binary => do
          let left ← child tag "left" fields
          let right ← child tag "right" fields
          return (.binary · (textField fields "operator" "None") left right)
        | some .conditional => do
          let test ← child tag "test" fields
          let consequent ← child tag "consequent" fields
          let alternate ← child tag "alternate" fields
          return (.conditional · test consequent alternate)
        | some .call => do
          let callee ← child tag "callee" fields
          let arguments ← items tag "arguments" fields
          return (.call · callee arguments.reduceOption)
        | some .construct => do
          let callee ← child tag "callee" fields
          let arguments ← items tag "arguments" fields
          return (.construct · callee arguments.reduceOption)
        | some .function => do
          let trailing ← option "rest" fields
          let defaults ← items tag "defaults" fields
          let (params, rest) ← parameters tag defaults fields
          let body ← child tag "body" fields
          let id ← option "id" fields
          return (.function · params body id (rest <|> trailing) (functionFlags fields))
        | some .declarator => do
          let target ← child tag "id" fields
          let init ← option "init" fields
          return fun span => .declarator ⟨span, target, init⟩
        | some .declaration => do
          let nodes ← items tag "declarations" fields
          let declared ← declarators nodes.reduceOption
          return (.declaration · declared (textField fields "kind" "var"))
        | some .assignment => do
          let left ← child tag "left" fields
          let right ← child tag "right" fields
          return (.assignment · (textField fields "operator" "None") left right)
        | some .update => do
          let argument ← child tag "argument" fields
          return (.update · (textField fields "operator" "None") argument
            (flagField fields "prefix"))
        | some .sequence => do
          let expressions ← items tag "expressions" fields
          return (.sequence · expressions.reduceOption)
        | some .block => do
          let body ← items tag "body" fields
          return (.block · body.reduceOption)
        | some .expressionStatement => do
          let inner ← child tag "expression" fields
          return (.expressionStatement · inner)
        | some .conditionalStatement => do
          let test ← child tag "test" fields
          let consequent ← child tag "consequent" fields
          let alternate ← option "alternate" fields
          return (.conditionalStatement · test consequent alternate)
        | some .whileLoop => do
          let test ← child tag "test" fields
          let body ← child tag "body" fields
          return (.whileLoop · test body)
        | some .doWhileLoop => do
          let body ← child tag "body" fields
          let test ← child tag "test" fields
          return (.doWhileLoop · body test)
        | some .forLoop => do
          let init ← option "init" fields
          let test ← option "test" fields
          let step ← option "update" fields
          let body ← child tag "body" fields
          return (.forLoop · init test step body)
        | some .forInLoop => do
          let left ← child tag "left" fields
          let right ← child tag "right" fields
          let body ← child tag "body" fields
          return (.forInLoop · left right body)
        | some .throwStatement => do
          let argument ← child tag "argument" fields
          return (.throwStatement · argument)
        | some .empty => .ok .empty
        | some .program => do
          let body ← items tag "body" fields
          return (.program · body.reduceOption)
      do
        let build ← build
        let span ← spanField fields
        return build span
    | _ => .error (.malformed .missingTag)
  | v => .error (.malformed (.notANode v.typeName))

/-- Reads the child under a key, which must be there. -/
def child (tag key : String) : List (String × Json) → Except LoadError Node
  | [] => .error (.malformed (.missingChild tag key))
  | (k, v) :: rest =>
    if k = key then
      if v.isNull then .error (.malformed (.missingChild tag key)) else node v
    else child tag key rest

/-- Reads the child under a key, if there is one. -/
def option (key : String) : List (String × Json) → Except LoadError (Option Node)
  | [] => .ok none
  | (k, v) :: rest =>
    if k = key then
      if v.isNull then .ok none else do return some (← node v)
    else option key rest

/-- Reads the list of children under a key, with holes; a missing list is empty. -/
def items (tag key : String) : List (String × Json) → Except LoadError (List (Option Node))
  | [] => .ok []
  | (k, v) :: rest =>
    if k = key then
      match v with
      | .arr values => nodes values
      | _ => .error (.malformed (.notAList tag key))
    else items tag key rest

/-- Reads the nodes of a list, with holes. -/
def nodes : List Json → Except LoadError (List (Option Node))
  | [] => .ok []
  | v :: rest =>
    if v.isNull then do return none :: (← nodes rest)
    else do
      let first ← node v
      return some first :: (← nodes rest)

/-- Reads the parameters of a function, and the one that takes the remaining arguments. -/
def parameters (tag : String) (defaults : List (Option Node)) :
    List (String × Json) → Except LoadError (List (Param Node) × Option Node)
  | [] => .ok ([], none)
  | (k, v) :: rest =>
    if k = "params" then
      match v with
      | .arr values => do
        let read ← nodes values
        attach defaults values read
      | _ => .error (.malformed (.notAList tag "params"))
    else parameters tag defaults rest

/-- Gives each parameter that was read its default value: its own if it is written as a pattern with
one, the one at its place in the list of defaults otherwise. -/
def attach : List (Option Node) → List Json → List (Option Node) →
    Except LoadError (List (Param Node) × Option Node)
  | defaults, v :: values, some param :: read =>
    match param, v with
    | .unsupported _ "AssignmentPattern" _, .obj fields => do
      let target ← child "AssignmentPattern" "left" fields
      let initial ← child "AssignmentPattern" "right" fields
      let (params, rest) ← attach defaults.tail values read
      return (⟨target, some initial⟩ :: params, rest)
    | .unsupported _ "RestElement" _, .obj fields => do
      let trailing ← child "RestElement" "argument" fields
      let (params, rest) ← attach defaults.tail values read
      return (params, rest <|> some trailing)
    | param, _ => do
      let (params, rest) ← attach defaults.tail values read
      return (⟨param, defaults.head?.join⟩ :: params, rest)
  | defaults, _ :: values, none :: read => attach defaults values read
  | _, _, _ => .ok ([], none)

end

end Load

/-- Reads a node of a syntax tree. -/
def Node.load (v : Json) : Except LoadError Node :=
  Load.node v

/-- A whole script. -/
structure Program where
  span : Option Span
  body : List Node

namespace Program

/-- A script as a node. -/
def toNode (program : Program) : Node :=
  .program program.span program.body

/-- Reads a whole script. Some parsers wrap the program into a file. -/
def load (v : Json) : Except LoadError Program := do
  let v := match v with
    | .obj fields =>
      match Entries.get? fields "type" with
      | some (.str "File") => (Entries.get? fields "program").getD .null
      | _ => v
    | _ => v
  match ← Node.load v with
  | .program span body => return ⟨span, body⟩
  | node => .error (.malformed (.notAProgram node.tag))

end Program

end PfaScript
