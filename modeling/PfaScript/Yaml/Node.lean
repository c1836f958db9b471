import PfaScript.Yaml.Plain
import PfaScript.Yaml.Token

/-!
# Nodes of YAML texts

`Yaml.Graph.ofTokens` reads the tokens of a text as its one document, a graph of scalars, sequences
and mappings. Every node gets the tag that is written before it, or else one that its spelling or
its kind implies. An alias stands for the node with its anchor, which begins before it and may be
around it.
-/

namespace PfaScript

namespace Yaml

/-- The type that a node is said to have. -/
inductive Tag where
  | null
  | truth
  | integer
  | float
  | timestamp
  | binary
  | text
  | sequence
  | mapping
  /-- A mapping of which only the keys count. -/
  | set
  /-- A list of mappings with one entry each. -/
  | pairs
  /-- The key that merges another mapping. -/
  | merge
  /-- The key of a mapping's default value. -/
  | default
  /-- Any other type. -/
  | unknown
deriving DecidableEq, Repr

/-- A node of a document. Its parts are nodes too, given by their numbers. -/
inductive Node where
  | scalar (tag : Tag) (text : String)
  | sequence (tag : Tag) (items : List Nat)
  | mapping (tag : Tag) (entries : List (Nat × Nat))
deriving Repr

/-- The type that a node is said to have. -/
def Node.tag : Node → Tag
  | .scalar tag _ => tag
  | .sequence tag _ => tag
  | .mapping tag _ => tag

/-- The node of a missing value. -/
def Node.missing : Node := .scalar .null ""

/-- The nodes of a document. The number of a node is its place. -/
abbrev Graph := List Node

/-- The node with a number. -/
def Graph.node (graph : Graph) (number : Nat) : Node :=
  graph[number]?.getD .missing

/-! ### Tags -/

namespace Tag

/-- The common beginning of the tags that are known. -/
def start : String := "tag:yaml.org,2002:"

/-- The type that a tag tells. -/
def ofText (tag : String) : Tag :=
  ([("null", .null), ("bool", .truth), ("int", .integer), ("float", .float),
    ("timestamp", .timestamp), ("binary", .binary), ("str", .text), ("seq", .sequence),
    ("map", .mapping), ("set", .set), ("omap", .pairs), ("pairs", .pairs), ("merge", .merge),
    ("value", .default)].find? fun (name, _) => tag = start ++ name).elim .unknown Prod.snd

/-- The type that the spelling of a scalar implies. A line end after the scalar does not matter. -/
def implied (text : String) : Tag :=
  let cs := text.toList
  let spelling := if 1 < cs.length && cs.getLast? = some '\n' then cs.dropLast else cs
  match Plain.classify spelling with
  | .null => .null
  | .truth => .truth
  | .integer => .integer
  | .float => .float
  | .timestamp => .timestamp
  | .merge => .merge
  | .default => .default
  | .text => .text

end Tag

/-! ### Reading -/

/-- What is left of the tokens, and what has been told before. -/
structure Reading where
  tokens : List Token
  /-- The nodes so far. Those that are not complete count as missing values. -/
  nodes : Graph
  /-- The nodes with an anchor. -/
  anchors : List (String × Nat)
  /-- The short forms of beginnings of tags. -/
  handles : List (String × String)

/-- A reader takes tokens from the front of a list, or finds a problem. -/
abbrev Reader := StateT Reading (Except Problem)

namespace Reader

/-- The next token, which must not be a problem. -/
def peek? : Reader (Option Token) := do
  match (← get).tokens.head? with
  | some (.problem problem) => throw problem
  | token => return token

/-- Takes the next token. -/
def drop : Reader Unit :=
  modify fun r => { r with tokens := r.tokens.tail }

/-- Takes a token, if it is next, and tells whether it was. -/
def skip (token : Token) : Reader Bool := do
  if (← peek?) = some token then
    drop
    return true
  else return false

/-- Whether the next token is one of these. -/
def sees (tokens : List Token) : Reader Bool := do
  return (← peek?).any tokens.contains

/-- Takes a token that has to be next. -/
def expect (token : Token) : Reader Unit := do
  if ← skip token then return () else throw .malformed

/-- Takes an anchor, if it is next. -/
def anchor? : Reader (Option String) := do
  match ← peek? with
  | some (.anchor name) =>
    drop
    return some name
  | _ => return none

/-- Takes a tag, if it is next: its short form, if it has one, and the rest. -/
def tag? : Reader (Option (Option String × String)) := do
  match ← peek? with
  | some (.tag handle suffix) =>
    drop
    return some (handle, suffix)
  | _ => return none

/-- The full form of a tag. -/
def tagText : Option String × String → Reader String
  | (none, suffix) => return suffix
  | (some handle, suffix) => do
    match (← get).handles.lookup handle with
    | some start => return start ++ suffix
    | none => throw .malformed

/-- Takes the anchor and the tag before a node, in any order. -/
def properties : Reader (Option String × Option String) := do
  let first ← anchor?
  let tag ← tag?
  let anchor ← if first.isNone && tag.isSome then anchor? else pure first
  return (anchor, ← tag.mapM tagText)

/-- Starts a node, which is a missing value so far. -/
def start : Reader Nat := do
  let number := (← get).nodes.length
  modify fun r => { r with nodes := r.nodes ++ [.missing] }
  return number

/-- Starts a node with an anchor, which no node before may have. -/
def startAt (anchor : Option String) : Reader Nat := do
  let anchors := (← get).anchors
  if (anchor.bind fun name => anchors.lookup name).isSome then throw .malformed
  let number ← start
  modify fun r => { r with anchors := (anchor.map (·, number)).toList ++ r.anchors }
  return number

/-- Completes a node. -/
def complete (number : Nat) (node : Node) : Reader Nat := do
  modify fun r => { r with nodes := r.nodes.set number node }
  return number

/-- The node that an alias stands for. -/
def aliased (name : String) : Reader Nat := do
  match (← get).anchors.lookup name with
  | some number => return number
  | none => throw .malformed

end Reader

open Reader

/-- The type of a scalar: the tag that is written, or what its spelling implies if it has no quotes.
The tag of one exclamation mark makes the spelling count. -/
def scalarTag (tag : Option String) (text : String) (isPlain : Bool) : Tag :=
  match tag with
  | some "!" => .implied text
  | some tag => .ofText tag
  | none => if isPlain then .implied text else .text

/-- The type of a list or mapping: the tag that is written, or that of its kind. -/
def collectionTag (tag : Option String) (kind : Tag) : Tag :=
  match tag with
  | some "!" => kind
  | some tag => .ofText tag
  | none => kind

mutual

/-- A node. In a block it may be a block itself, and after a key also a list that is not
indented. -/
def node : Nat → Bool → Bool → Reader Nat
  | 0, _, _ => throw .malformed
  | fuel + 1, inBlock, afterKey => do
    match ← peek? with
    | some (.alias name) =>
      drop
      aliased name
    | _ =>
      let (anchor, tag) ← properties
      let _ ← peek?
      let number ← startAt anchor
      complete number (← content fuel inBlock afterKey (anchor.isSome || tag.isSome) tag)

/-- The content of a node after its anchor and tag. It may be missing if there is one of them. -/
def content : Nat → Bool → Bool → Bool → Option String → Reader Node
  | 0, _, _, _, _ => throw .malformed
  | fuel + 1, inBlock, afterKey, hasProperties, tag => do
    let listTag := collectionTag tag .sequence
    let mapTag := collectionTag tag .mapping
    match ← peek?, inBlock, afterKey with
    | some .item, _, true => return .sequence listTag (← plainItems fuel)
    | some (.scalar text isPlain), _, _ =>
      drop
      return .scalar (scalarTag tag text isPlain) text
    | some .flowSequence, _, _ =>
      drop
      return .sequence listTag (← flowItems fuel true)
    | some .flowMapping, _, _ =>
      drop
      return .mapping mapTag (← flowEntries fuel true)
    | some .blockSequence, true, _ =>
      drop
      return .sequence listTag (← blockItems fuel)
    | some .blockMapping, true, _ =>
      drop
      return .mapping mapTag (← blockEntries fuel)
    | _, _, _ =>
      if hasProperties then return .scalar (scalarTag tag "" true) ""
      else throw .malformed

/-- The items of a list in block style. -/
def blockItems : Nat → Reader (List Nat)
  | 0 => throw .malformed
  | fuel + 1 => do
    if ← skip .item then
      let first ← if ← sees [.item, .blockEnd] then start else node fuel true false
      return first :: (← blockItems fuel)
    else
      expect .blockEnd
      return []

/-- The items of a list in block style that is not indented. -/
def plainItems : Nat → Reader (List Nat)
  | 0 => throw .malformed
  | fuel + 1 => do
    if ← skip .item then
      let first ← if ← sees [.item, .key, .value, .blockEnd] then start
        else node fuel true false
      return first :: (← plainItems fuel)
    else return []

/-- The entries of a mapping in block style. -/
def blockEntries : Nat → Reader (List (Nat × Nat))
  | 0 => throw .malformed
  | fuel + 1 => do
    if ← skip .key then
      let key ← if ← sees [.key, .value, .blockEnd] then start else node fuel true true
      let value ← if ← skip .value then
          if ← sees [.key, .value, .blockEnd] then start else node fuel true true
        else start
      return (key, value) :: (← blockEntries fuel)
    else
      expect .blockEnd
      return []

/-- The items of a list in brackets, of which this is the first or not. An item may be a single
entry of a mapping. -/
def flowItems : Nat → Bool → Reader (List Nat)
  | 0, _ => throw .malformed
  | fuel + 1, isFirst => do
    if ← skip .flowSequenceEnd then return []
    else
      if !isFirst then expect .comma
      if ← skip .key then
        let entry ← flowEntry fuel .flowSequenceEnd
        let first ← complete (← start) (.mapping .mapping [entry])
        return first :: (← flowItems fuel false)
      else if ← skip .flowSequenceEnd then return []
      else
        let first ← node fuel false false
        return first :: (← flowItems fuel false)

/-- The entries of a mapping in braces, of which this is the first or not. -/
def flowEntries : Nat → Bool → Reader (List (Nat × Nat))
  | 0, _ => throw .malformed
  | fuel + 1, isFirst => do
    if ← skip .flowMappingEnd then return []
    else
      if !isFirst then expect .comma
      if ← skip .key then
        let entry ← flowEntry fuel .flowMappingEnd
        return entry :: (← flowEntries fuel false)
      else if ← skip .flowMappingEnd then return []
      else
        let key ← node fuel false false
        return (key, ← start) :: (← flowEntries fuel false)

/-- An entry inside brackets after the mark of its key. -/
def flowEntry : Nat → Token → Reader (Nat × Nat)
  | 0, _ => throw .malformed
  | fuel + 1, close => do
    let key ← if ← sees [.value, .comma, close] then start else node fuel false false
    let value ← if ← skip .value then
        if ← sees [.comma, close] then start else node fuel false false
      else start
    return (key, value)

end

/-- The short forms of tags that need no directive. -/
def commonHandles : List (String × String) := [("!", "!"), ("!!", Tag.start)]

/-- Takes the directives before a document. Only one may tell the version, which has to begin with
one, and no short form may be given twice. -/
def directives : Nat → Bool → List (String × String) → Reader Unit
  | 0, _, _ => throw .malformed
  | fuel + 1, hasVersion, handles => do
    match ← peek? with
    | some (.version major) =>
      if hasVersion || major ≠ 1 then throw .malformed
      drop
      directives fuel true handles
    | some (.tagHandle handle start) =>
      if (handles.lookup handle).isSome then throw .malformed
      drop
      directives fuel hasVersion ((handle, start) :: handles)
    | some .directive =>
      drop
      directives fuel hasVersion handles
    | _ => modify fun r => { r with handles := handles ++ commonHandles }

/-- Whether a token starts a document or a directive. -/
def Token.opensDocument : Token → Bool
  | .version _ => true
  | .tagHandle _ _ => true
  | .directive => true
  | .documentStart => true
  | _ => false

/-- The one document of a text, if there is any. -/
def document (fuel : Nat) : Reader (Option Nat) := do
  match ← peek? with
  | none => return none
  | some token =>
    if token.opensDocument then
      directives fuel false []
      expect .documentStart
      match ← peek? with
      | none => return ← start
      | some token =>
        if token.opensDocument || token = .documentEnd then return ← start
        else return ← node fuel true false
    else return ← node fuel true false

/-- Takes the marks of a document's end; then nothing may be left, not even the start of another
document. -/
def finish : Nat → Reader Unit
  | 0 => throw .malformed
  | fuel + 1 => do
    if ← skip .documentEnd then finish fuel
    else if (← peek?).isSome then
      directives fuel false []
      expect .documentStart
      throw .malformed
    else return ()

/-- The document of a text, given by its tokens: its nodes and the number of its root. -/
def Graph.ofTokens (tokens : List Token) : Except Problem (Option (Graph × Nat)) := do
  let fuel := 8 * tokens.length + 8
  let read : Reader (Option Nat) := do
    let root ← document fuel
    finish fuel
    return root
  let (root, reading) ← read.run ⟨tokens, [], [], commonHandles⟩
  return root.map fun number => (reading.nodes, number)

end Yaml

end PfaScript
