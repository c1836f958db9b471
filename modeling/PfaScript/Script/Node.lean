import PfaScript.Json.Basic
import PfaScript.Script.Span

/-!
# Syntax trees of scripts

Scripts are written in JavaScript and handed over as syntax trees. `Node` is the part of the syntax
that can occur in a scoring script; every other construct is kept as `Node.unsupported`, with the
tag it had, so that it is refused where it is used and not where it is read.

`Node.walk` lists a node and everything below it, in source order.
-/

namespace PfaScript

/-- A declared variable with its initial value. -/
structure Declarator (ν : Type) where
  span : Option Span
  target : ν
  init : Option ν
deriving Repr

/-- A parameter of a function with its default value. -/
structure Param (ν : Type) where
  target : ν
  initial : Option ν
deriving Repr

/-- How a function is written, apart from its parameters and body. -/
structure FunctionFlags where
  generator : Bool
  expression : Bool
  async : Bool
deriving DecidableEq, Repr

/-- A node of a script's syntax tree. -/
inductive Node where
  /-- A literal: any value, as written in `raw`. A `pattern` makes it a regular expression; without
  one the pattern is null. -/
  | literal (span : Option Span) (raw : Option Json) (value pattern : Json)
  | identifier (span : Option Span) (name : String)
  /-- An array literal, with holes. -/
  | array (span : Option Span) (elements : List (Option Node))
  /-- An entry of an object literal. -/
  | property (span : Option Span) (key value : Node) (kind : String) (computed : Bool)
  | object (span : Option Span) (properties : List Node)
  | member (span : Option Span) (base access : Node) (computed : Bool)
  | unary (span : Option Span) (operator : String) (argument : Node) (leading : Bool)
  | binary (span : Option Span) (operator : String) (left right : Node)
  | conditional (span : Option Span) (test consequent alternate : Node)
  | call (span : Option Span) (callee : Node) (arguments : List Node)
  | construct (span : Option Span) (callee : Node) (arguments : List Node)
  | function (span : Option Span) (params : List (Param Node)) (body : Node)
      (id rest : Option Node) (flags : FunctionFlags)
  | declarator (declarator : Declarator Node)
  | declaration (span : Option Span) (declarators : List (Declarator Node)) (kind : String)
  | assignment (span : Option Span) (operator : String) (left right : Node)
  | update (span : Option Span) (operator : String) (argument : Node) (leading : Bool)
  | sequence (span : Option Span) (expressions : List Node)
  | block (span : Option Span) (body : List Node)
  | expressionStatement (span : Option Span) (expression : Node)
  | conditionalStatement (span : Option Span) (test consequent : Node) (alternate : Option Node)
  | whileLoop (span : Option Span) (test body : Node)
  | doWhileLoop (span : Option Span) (body test : Node)
  | forLoop (span : Option Span) (init test step : Option Node) (body : Node)
  | forInLoop (span : Option Span) (left right body : Node)
  | throwStatement (span : Option Span) (argument : Node)
  | empty (span : Option Span)
  | program (span : Option Span) (body : List Node)
  /-- Any other construct, with its whole payload. -/
  | unsupported (span : Option Span) (tag : String) (payload : List (String × Json))
deriving Inhabited

namespace Node

/-- The tag of a node's construct. -/
def tag : Node → String
  | .literal .. => "Literal"
  | .identifier .. => "Identifier"
  | .array .. => "ArrayExpression"
  | .property .. => "Property"
  | .object .. => "ObjectExpression"
  | .member .. => "MemberExpression"
  | .unary .. => "UnaryExpression"
  | .binary .. => "BinaryExpression"
  | .conditional .. => "ConditionalExpression"
  | .call .. => "CallExpression"
  | .construct .. => "NewExpression"
  | .function .. => "FunctionExpression"
  | .declarator .. => "VariableDeclarator"
  | .declaration .. => "VariableDeclaration"
  | .assignment .. => "AssignmentExpression"
  | .update .. => "UpdateExpression"
  | .sequence .. => "SequenceExpression"
  | .block .. => "BlockStatement"
  | .expressionStatement .. => "ExpressionStatement"
  | .conditionalStatement .. => "IfStatement"
  | .whileLoop .. => "WhileStatement"
  | .doWhileLoop .. => "DoWhileStatement"
  | .forLoop .. => "ForStatement"
  | .forInLoop .. => "ForInStatement"
  | .throwStatement .. => "ThrowStatement"
  | .empty .. => "EmptyStatement"
  | .program .. => "Program"
  | .unsupported _ tag _ => tag

/-- The place of a node in its source file. -/
def span : Node → Option Span
  | .literal span .. => span
  | .identifier span .. => span
  | .array span .. => span
  | .property span .. => span
  | .object span .. => span
  | .member span .. => span
  | .unary span .. => span
  | .binary span .. => span
  | .conditional span .. => span
  | .call span .. => span
  | .construct span .. => span
  | .function span .. => span
  | .declarator d => d.span
  | .declaration span .. => span
  | .assignment span .. => span
  | .update span .. => span
  | .sequence span .. => span
  | .block span .. => span
  | .expressionStatement span .. => span
  | .conditionalStatement span .. => span
  | .whileLoop span .. => span
  | .doWhileLoop span .. => span
  | .forLoop span .. => span
  | .forInLoop span .. => span
  | .throwStatement span .. => span
  | .empty span => span
  | .program span .. => span
  | .unsupported span .. => span

mutual

/-- A node and everything below it, each node before its children. -/
def walk : Node → List Node
  | node@(.literal ..) => [node]
  | node@(.identifier ..) => [node]
  | node@(.array _ elements) => node :: walkHoles elements
  | node@(.property _ key value _ _) => node :: (walk key ++ walk value)
  | node@(.object _ properties) => node :: walkAll properties
  | node@(.member _ base access _) => node :: (walk base ++ walk access)
  | node@(.unary _ _ argument _) => node :: walk argument
  | node@(.binary _ _ left right) => node :: (walk left ++ walk right)
  | node@(.conditional _ test consequent alternate) =>
    node :: (walk test ++ walk consequent ++ walk alternate)
  | node@(.call _ callee arguments) => node :: (walk callee ++ walkAll arguments)
  | node@(.construct _ callee arguments) => node :: (walk callee ++ walkAll arguments)
  | node@(.function _ params body id rest _) =>
    node :: (walkTargets params ++ walkDefaults params ++ walk body ++ walkOption id ++
      walkOption rest)
  | node@(.declarator ⟨_, target, init⟩) => node :: (walk target ++ walkOption init)
  | node@(.declaration _ declarators _) => node :: walkDeclarators declarators
  | node@(.assignment _ _ left right) => node :: (walk left ++ walk right)
  | node@(.update _ _ argument _) => node :: walk argument
  | node@(.sequence _ expressions) => node :: walkAll expressions
  | node@(.block _ body) => node :: walkAll body
  | node@(.expressionStatement _ inner) => node :: walk inner
  | node@(.conditionalStatement _ test consequent alternate) =>
    node :: (walk test ++ walk consequent ++ walkOption alternate)
  | node@(.whileLoop _ test body) => node :: (walk test ++ walk body)
  | node@(.doWhileLoop _ body test) => node :: (walk body ++ walk test)
  | node@(.forLoop _ init test step body) =>
    node :: (walkOption init ++ walkOption test ++ walkOption step ++ walk body)
  | node@(.forInLoop _ left right body) => node :: (walk left ++ walk right ++ walk body)
  | node@(.throwStatement _ argument) => node :: walk argument
  | node@(.empty _) => [node]
  | node@(.program _ body) => node :: walkAll body
  | node@(.unsupported ..) => [node]

/-- The walks of the nodes of a list, one after the other. -/
def walkAll : List Node → List Node
  | [] => []
  | node :: rest => walk node ++ walkAll rest

/-- The walk of a node that may be missing. -/
def walkOption : Option Node → List Node
  | none => []
  | some node => walk node

/-- The walks of an array's elements; holes have none. -/
def walkHoles : List (Option Node) → List Node
  | [] => []
  | element :: rest => walkOption element ++ walkHoles rest

/-- The walks of a function's parameters. -/
def walkTargets : List (Param Node) → List Node
  | [] => []
  | ⟨target, _⟩ :: rest => walk target ++ walkTargets rest

/-- The walks of a function's default values. -/
def walkDefaults : List (Param Node) → List Node
  | [] => []
  | ⟨_, initial⟩ :: rest => walkOption initial ++ walkDefaults rest

/-- The walks of the declarators of a declaration. -/
def walkDeclarators : List (Declarator Node) → List Node
  | [] => []
  | ⟨span, target, init⟩ :: rest =>
    .declarator ⟨span, target, init⟩ :: (walk target ++ walkOption init) ++ walkDeclarators rest

end

end Node

end PfaScript
