import PfaScript.Proofs.Reading

/-!
# Spellings of syntax trees

Parsers write the same node in different ways. `Encoding` lists the ways that come in pairs: typed
and untyped literals, entries of object literals, logical and binary operators, and the default
values of a function's parameters and the parameter that takes the remaining arguments, which stand
beside the parameters or are patterns among them. `Respelled` changes between them at any number of
nodes, at any depth: it is the smallest equivalence that contains the encodings and may be applied
in every field that can hold a node. `SameScript` also wraps a whole script into a file.
-/

namespace PfaScript

/-- The keys of a construct's fields whose values are read as they are. Its other fields hold
nodes, or are not read at all. -/
def Construct.plainKeys : Construct → List String
  | .literal => ["value", "regex"]
  | .typedLiteral => ["value"]
  | .regexLiteral => ["pattern"]
  | .identifier => ["name"]
  | .property => ["kind", "method", "computed"]
  | .member => ["computed"]
  | .unary | .update => ["operator", "prefix"]
  | .binary | .assignment => ["operator"]
  | .function => ["generator", "expression", "async"]
  | .declaration => ["kind"]
  | .nullLiteral | .array | .object | .conditional | .call | .construct | .declarator | .sequence
  | .block | .expressionStatement | .conditionalStatement | .whileLoop | .doWhileLoop | .forLoop
  | .forInLoop | .throwStatement | .empty | .program => []

namespace Spelling

/-- A node has this tag. -/
def Tagged (fields : Entries String Json) (tag : String) : Prop :=
  fields.get? "type" = some (.str tag)

/-- The keys of an object's fields that hold no nodes: its tag, its place and, if it is a node of a
known construct, its plain fields. -/
def plainKeys (fields : Entries String Json) : List String :=
  "type" :: "loc" ::
    match fields.get? "type" with
    | some (.str tag) => (Construct.ofTag? tag).elim [] Construct.plainKeys
    | _ => []

/-! ### Parameters -/

/-- A place that can be read, or none at all. -/
def Placed (fields : Entries String Json) : Prop :=
  ∃ span, Load.spanField fields = .ok span

/-- A pattern for a parameter with a default value. -/
def IsAssignment (pattern target initial : Json) : Prop :=
  ∃ fields : Entries String Json, pattern = .obj fields ∧ Tagged fields "AssignmentPattern" ∧
    fields.get? "left" = some target ∧ fields.get? "right" = some initial ∧ Placed fields

/-- A pattern for the parameter that takes the remaining arguments. -/
def IsRest (pattern target : Json) : Prop :=
  ∃ fields : Entries String Json, pattern = .obj fields ∧ Tagged fields "RestElement" ∧
    fields.get? "argument" = some target ∧ Placed fields

/-- A parameter that is there and no pattern. -/
def IsPlain (target : Json) : Prop :=
  target ≠ .null ∧ target.field? "type" ≠ some (.str "AssignmentPattern") ∧
    target.field? "type" ≠ some (.str "RestElement")

/-- How parameters are written, given each parameter with its default value and the parameter that
takes the remaining arguments, where null stands for none: as the list of parameters, the list of
default values beside it and the parameter beside both. A default value stands at the place of its
parameter or in a pattern, and the last parameter stands beside the list or is a pattern at its
end. -/
inductive Parameters :
    List (Json × Json) → Json → (params defaults : List Json) → (rest : Json) → Prop
  | nil {trailing : Json} {defaults : List Json} (hdefaults : ∀ d ∈ defaults, d = .null) :
    Parameters [] trailing [] defaults trailing
  | rest {trailing pattern : Json} {defaults : List Json}
    (hdefaults : ∀ d ∈ defaults, d = .null) (htrailing : trailing ≠ .null)
    (hpattern : IsRest pattern trailing) : Parameters [] trailing [pattern] defaults .null
  | beside {target trailing rest : Json} {signature : List (Json × Json)}
    {params defaults : List Json} (htarget : IsPlain target)
    (h : Parameters signature trailing params defaults.tail rest) :
    Parameters ((target, defaults.headD .null) :: signature) trailing (target :: params) defaults
      rest
  | assignment {target initial pattern trailing rest : Json} {signature : List (Json × Json)}
    {params defaults : List Json} (htarget : IsPlain target) (hinitial : initial ≠ .null)
    (hpattern : IsAssignment pattern target initial) (hdefault : defaults.headD .null = .null)
    (h : Parameters signature trailing params defaults.tail rest) :
    Parameters ((target, initial) :: signature) trailing (pattern :: params) defaults rest

/-- A field holds a list; a missing one is empty. -/
def HoldsList (fields : Entries String Json) (key : String) (items : List Json) : Prop :=
  fields.get? key = some (.arr items) ∨ fields.get? key = none ∧ items = []

/-- A function is written with these parameters. -/
def HasParameters (fields : Entries String Json) (signature : List (Json × Json))
    (trailing : Json) : Prop :=
  ∃ params defaults, HoldsList fields "params" params ∧ HoldsList fields "defaults" defaults ∧
    Parameters signature trailing params defaults ((fields.get? "rest").getD .null)

/-! ### Encodings -/

/-- Two objects have the same values under these keys. -/
def SameAt (f g : Entries String Json) (keys : List String) : Prop :=
  ∀ key ∈ keys, f.get? key = g.get? key

/-- The first object writes in one way what the second writes in another. -/
inductive Encoding (f g : Entries String Json) : Prop
  /-- A literal with a tag for its type. -/
  | typed {tag : String} {v : Json}
    (htag : tag = "StringLiteral" ∨ tag = "NumericLiteral" ∨ tag = "BooleanLiteral")
    (hf : Tagged f tag) (hvalue : f.get? "value" = some v) (hg : Tagged g "Literal")
    (hvalue' : g.get? "value" = some v) (hregex : ∀ regex, g.get? "regex" ≠ some (.obj regex))
  | null (hf : Tagged f "NullLiteral") (hg : Tagged g "Literal")
    (hvalue : g.get? "value" = some .null) (hregex : ∀ regex, g.get? "regex" ≠ some (.obj regex))
  /-- A regular expression. -/
  | regex {pattern : String} {regex : Entries String Json} (hf : Tagged f "RegExpLiteral")
    (hpattern : f.get? "pattern" = some (.str pattern)) (hg : Tagged g "Literal")
    (hvalue : g.get? "value" = some .null) (hregex : g.get? "regex" = some (.obj regex))
    (hpattern' : regex.get? "pattern" = some (.str pattern))
  /-- An entry of an object literal that is no method. -/
  | property (hf : Tagged f "ObjectProperty") (hkind : f.get? "kind" = none)
    (hmethod : f.get? "method" = none) (hg : Tagged g "Property")
    (hkind' : g.get? "kind" = some (.str "init"))
    (hmethod' : ∀ v, g.get? "method" = some v → v.truthy = false)
    (hsame : SameAt f g ["key", "value", "computed"])
  | logical (hf : Tagged f "LogicalExpression") (hg : Tagged g "BinaryExpression")
    (hsame : SameAt f g ["operator", "left", "right"])
  /-- A function with its default values and its last parameter beside or among its parameters. -/
  | function {signature : List (Json × Json)} {trailing : Json}
    (hf : Tagged f "FunctionExpression") (hparams : HasParameters f signature trailing)
    (hg : Tagged g "FunctionExpression") (hparams' : HasParameters g signature trailing)
    (hsame : SameAt f g ["body", "id", "generator", "expression", "async"])

end Spelling

open Spelling

/-- The second value is the first one with some of its nodes written in another way. -/
inductive Respelled : Json → Json → Prop
  | encoding {f g : Entries String Json} (h : Encoding f g) (hloc : f.get? "loc" = g.get? "loc") :
    Respelled (.obj f) (.obj g)
  | field {before after : Entries String Json} {key : String} {v w : Json}
    (hkey : key ∉ plainKeys (before ++ (key, v) :: after)) (h : Respelled v w) :
    Respelled (.obj (before ++ (key, v) :: after)) (.obj (before ++ (key, w) :: after))
  | item {before after : List Json} {v w : Json} (h : Respelled v w) :
    Respelled (.arr (before ++ v :: after)) (.arr (before ++ w :: after))
  | refl (v : Json) : Respelled v v
  | symm {v w : Json} (h : Respelled v w) : Respelled w v
  | trans {u v w : Json} (h : Respelled u v) (h' : Respelled v w) : Respelled u w

/-- The second value is the first one, as a whole script, with some of its nodes written in another
way. A program may also be wrapped into a file, but only a whole script is unwrapped: a file within
a file or below a program is none. -/
inductive SameScript : Json → Json → Prop
  | respelled {v w : Json} (h : Respelled v w) : SameScript v w
  | file {file program : Entries String Json} (hfile : Tagged file "File")
    (hprogram : file.get? "program" = some (.obj program)) (htag : Tagged program "Program") :
    SameScript (.obj file) (.obj program)
  | symm {v w : Json} (h : SameScript v w) : SameScript w v
  | trans {u v w : Json} (h : SameScript u v) (h' : SameScript v w) : SameScript u w

end PfaScript
