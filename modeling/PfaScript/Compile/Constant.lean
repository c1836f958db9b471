import PfaScript.Compile.Fault
import PfaScript.Compile.Marker

/-!
# Constants

Values that are known when a script is compiled: literals, negated numbers, and arrays and objects
of constants. Types, initial values and most fields of a document are written as constants.

The keys of an object literal are texts or plain names. The key `@` is reserved for markers.
-/

namespace PfaScript

/-- The key of an entry with the given parts. -/
def propertyKey (span : Option Span) (key : Node) (kind : String) (computed : Bool) :
    Except Fault String :=
  if kind ≠ "init" ∨ computed then .error ⟨.objectKey, span⟩ else
  let named (name : String) : Except Fault String :=
    if name = markerKey then .error ⟨.reservedKey, span⟩ else .ok name
  match key with
  | .literal _ _ (.str name) _ => named name
  | .identifier _ name => named name
  | _ => .error ⟨.objectKey, span⟩

/-- The keys of an object literal's entries with the nodes of their values, as they are written. -/
def objectEntries : List Node → Except Fault (List (String × Node))
  | [] => .ok []
  | .property span key value kind computed :: rest => do
    let name ← propertyKey span key kind computed
    return (name, value) :: (← objectEntries rest)
  | node :: _ => .error ⟨.objectKey, node.span⟩

/-- The entries of an object literal, with what is made of the key and the node of each. -/
def entriesWith (make : String → Node → Except Fault Json) :
    List Node → Except Fault (List (String × Json))
  | [] => .ok []
  | .property span key value kind computed :: rest => do
    let name ← propertyKey span key kind computed
    let first ← make name value
    return (name, first) :: (← entriesWith make rest)
  | node :: _ => .error ⟨.objectKey, node.span⟩

/-- The number with the other sign, if the value is a number. -/
def Json.negated? : Json → Option Json
  | .int n => some (.int (-n))
  | .float x => some (.float (-x))
  | _ => none

/-- The number that a minus sign before a literal makes. -/
def negatedLiteral? (operator : String) (argument : Node) : Option Json :=
  match operator, argument with
  | "-", .literal _ _ value _ => value.negated?
  | _, _ => none

namespace Node

mutual

/-- The value of a node that is a constant. -/
def constant : Node → Except Fault Json
  | .literal span _ value pattern =>
    if pattern.isText then .error ⟨.patternConstant, span⟩ else .ok value
  | .unary span operator argument _ =>
    match negatedLiteral? operator argument with
    | some number => .ok number
    | none => .error ⟨.notAConstant "UnaryExpression", span⟩
  | .array span elements => do return .arr (← constants span elements)
  | .object span properties => do
    return tagged span (Entries.ofList (← constantEntries properties))
  | node => .error ⟨.notAConstant node.tag, node.span⟩

/-- The values of the elements of an array at the given place, which has no holes. -/
def constants (span : Option Span) : List (Option Node) → Except Fault (List Json)
  | [] => .ok []
  | none :: _ => .error ⟨.arrayHole, span⟩
  | some element :: rest => do
    let first ← constant element
    return first :: (← constants span rest)

/-- The entries of an object literal with constant values. -/
def constantEntries : List Node → Except Fault (List (String × Json))
  | [] => .ok []
  | .property span key value kind computed :: rest => do
    let name ← propertyKey span key kind computed
    let first ← constant value
    return (name, first) :: (← constantEntries rest)
  | node :: _ => .error ⟨.objectKey, node.span⟩

end

/-- Whether a node is a text literal, and which text. -/
def text? : Node → Option String
  | .literal _ _ (.str text) .null => some text
  | _ => none

/-- The name that a node gives: an identifier's or a text literal's. -/
def name? : Node → Option String
  | .literal _ _ (.str name) _ => some name
  | .identifier _ name => some name
  | _ => none

end Node

end PfaScript
