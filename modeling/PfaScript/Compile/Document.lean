import PfaScript.Compile.Slot
import PfaScript.Compile.Term

/-!
# Documents

A script is a list of assignments to the fields of a document, such as

    input = "double";
    output = "double";
    action = function(input) { input + 1; };

Each field has rules of its own. `Program.compile` compiles the statements in order and stops at the
first fault, then asks for the three fields that every document has.
-/

namespace PfaScript

/-- The fields of a document. -/
inductive Field where
  | name | doc | method | input | output | zero | metadata | begin | end | action | fcns | cells
  | pools | randseed | options
deriving DecidableEq, Repr

namespace Field

/-- All fields. -/
def all : List Field :=
  [.name, .doc, .method, .input, .output, .zero, .metadata, .begin, .end, .action, .fcns, .cells,
    .pools, .randseed, .options]

/-- The key of a field in a document. -/
def key : Field → String
  | .name => "name"
  | .doc => "doc"
  | .method => "method"
  | .input => "input"
  | .output => "output"
  | .zero => "zero"
  | .metadata => "metadata"
  | .begin => "begin"
  | .end => "end"
  | .action => "action"
  | .fcns => "fcns"
  | .cells => "cells"
  | .pools => "pools"
  | .randseed => "randseed"
  | .options => "options"

/-- The field with this key. -/
def ofKey? (key : String) : Option Field :=
  all.find? (·.key = key)

/-- The fields that every document has. -/
def required : List Field := [.input, .output, .action]

end Field

namespace Document

/-! ### Values of fields -/

/-- The statements of the function that a field is given, and its parameters. -/
def plainFunction (field : Field) : Node → Except Fault (List (Param Node) × List Node)
  | .function span params (.block _ body) id rest flags =>
    if Node.isPlainFunction id rest flags then .ok (params, body)
    else .error ⟨.fieldFunction field.key, span⟩
  | node => .error ⟨.fieldFunction field.key, node.span⟩

/-- Checks the parameters of an action: `input` and `tally`, each at most once and without default.
The names before them are `seen`; all names are returned. -/
def actionParameters (seen : List String) : List (Param Node) → Except Fault (List String)
  | [] => .ok seen
  | ⟨.identifier span name, initial⟩ :: rest =>
    if (name = "input" ∨ name = "tally") ∧ name ∉ seen ∧ initial.isNone then
      actionParameters (name :: seen) rest
    else .error ⟨.actionParameter, span⟩
  | ⟨target, _⟩ :: _ => .error ⟨.actionParameter, target.span⟩

/-- The number that a node is: a literal or a negated one. -/
def constantNumber? : Node → Option Json
  | .literal _ _ (.int n) _ => some (.int n)
  | .literal _ _ (.float x) _ => some (.float x)
  | .unary _ operator argument _ => negatedLiteral? operator argument
  | _ => none

/-- The integer that a node is. -/
def constantInteger? (node : Node) : Option Int :=
  match constantNumber? node with
  | some (.int n) => some n
  | some (.float x) => x.toInt?
  | _ => none

/-- The value of a field. -/
def value (field : Field) (node : Node) : Except Fault Json :=
  match field with
  | .name | .doc =>
    match node.text? with
    | some text => .ok (.str text)
    | none => .error ⟨.fieldText field.key, node.span⟩
  | .method =>
    match node, node.text? with
    | _, some text => .ok (.str text)
    | .identifier _ name, none => .ok (.str name)
    | _, none => .error ⟨.methodName, node.span⟩
  | .input | .output | .zero | .metadata => node.constant
  | .begin | .end => do
    let (params, body) ← plainFunction field node
    if !params.isEmpty then .error ⟨.fieldParameters field.key, node.span⟩
    else return .arr (← Node.statements body)
  | .action => do
    let (params, body) ← plainFunction field node
    let names ← actionParameters [] params
    if "input" ∉ names then .error ⟨.actionInput, node.span⟩
    else return .arr (← Node.statements body)
  | .fcns =>
    match node with
    | .object span properties => do
      return tagged span (Entries.ofList (← entriesWith (fun _ => Node.definition) properties))
    | node => .error ⟨.functionsShape, node.span⟩
  | .cells => node.slots .cells
  | .pools => node.slots .pools
  | .randseed =>
    match constantInteger? node with
    | some n => .ok (.int n)
    | none => .error ⟨.randomSeed, node.span⟩
  | .options =>
    match node with
    | .object span properties => do
      return tagged span (Entries.ofList (← Node.constantEntries properties))
    | node => .error ⟨.optionsShape, node.span⟩

/-! ### Statements -/

/-- The key and the value of a top-level statement that assigns a field. -/
def assignment? : Node → Option (String × Node)
  | .expressionStatement _ (.assignment _ "=" (.identifier _ key) value) => some (key, value)
  | _ => none

/-- What a statement adds to the document made of the statements before it. -/
def entry (document : Entries String Json) (statement : Node) : Except Fault (String × Json) :=
  match assignment? statement with
  | none => .error ⟨.topLevel, statement.span⟩
  | some (key, node) =>
    match Field.ofKey? key with
    | none => .error ⟨.unknownField key, statement.span⟩
    | some field =>
      if document.contains key then .error ⟨.repeatedField key, statement.span⟩ else do
      return (key, ← value field node)

/-- The document with the entry that a statement adds. -/
def extend (document : Entries String Json) (statement : Node) :
    Except Fault (Entries String Json) := do
  return document ++ [← entry document statement]

/-- The fields that statements add to a document, up to the first fault. -/
def fieldsAdded (document : Entries String Json) : List Node → List String
  | [] => []
  | statement :: rest =>
    match entry document statement with
    | .ok entry => entry.1 :: fieldsAdded (document ++ [entry]) rest
    | .error _ => []

/-- The fault of a document that lacks a required field. -/
def incomplete? (document : Entries String Json) : Option Fault :=
  (Field.required.find? (!document.contains ·.key)).map fun field => ⟨.missingField field.key, none⟩

end Document

namespace Program

/-- The fields that are compiled before the first fault. -/
def fieldsCompiled (program : Program) : List String :=
  Document.fieldsAdded [] program.body

/-- The document of a script, with all location markers. -/
def compile (program : Program) : Except Fault (Entries String Json) := do
  let document ← program.body.foldlM Document.extend []
  match Document.incomplete? document with
  | some fault => .error fault
  | none => return document

/-- The document of a script, with or without location markers. -/
def document (program : Program) (withLocations : Bool) : Except Fault (Entries String Json) := do
  let document ← program.compile
  return if withLocations then document else Json.stripFields document

end Program

end PfaScript
