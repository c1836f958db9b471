import PfaScript.Text.Basic
import PfaScript.Yaml.Scalar

/-!
# Reading YAML

`Yaml.read` reads a text as one document and makes a setting of it. The values are made level by
level, from the root to the leaves, so of several problems the one nearest to the root is told.

Of two entries with one key the last value counts, at the place of the first; a key that is not a
number differs from all others. The entries of merged mappings come before the mapping's own.
-/

namespace PfaScript

namespace Yaml

/-- What makes values may change the nodes of a document, or finds a problem. -/
abbrev Builder := StateT Graph (Except Problem)

/-! ### Mappings -/

/-- The first entry of a mapping that merges, as the value it merges and all other entries. -/
def firstMerge? (graph : Graph) : List (Nat × Nat) → Option (Nat × List (Nat × Nat))
  | [] => none
  | (key, value) :: rest =>
    if (graph.node key).tag = .merge then some (value, rest)
    else (firstMerge? graph rest).map fun (merged, others) => (merged, (key, value) :: others)

/-- The key of a default value as an ordinary one. -/
def ordinaryKey (graph : Graph) (key : Nat) : Graph :=
  match graph.node key with
  | .scalar .default text => graph.set key (.scalar .text text)
  | .sequence .default items => graph.set key (.sequence .text items)
  | .mapping .default entries => graph.set key (.mapping .text entries)
  | _ => graph

/-- Puts the entries of the mappings that a mapping merges before its own, and gives all of them. An
entry that merges is taken out first, so a mapping may merge itself. -/
def flatten : Nat → Nat → Builder (List (Nat × Nat))
  | 0, _ => throw .malformed
  | fuel + 1, number => do
    let .mapping tag entries := (← get).node number | throw .malformed
    match firstMerge? (← get) entries with
    | none =>
      modify fun graph => (entries.map Prod.fst).foldl ordinaryKey graph
      return entries
    | some (value, others) =>
      modify (·.set number (.mapping tag others))
      let found ← match (← get).node value with
        | .sequence _ items => do return (← items.mapM (flatten fuel)).reverse.flatten
        | _ => flatten fuel value
      let entries := found ++ (← flatten fuel number)
      modify (·.set number (.mapping tag entries))
      return entries

/-- The one entry of a node that has to be a mapping with one entry. -/
def singleEntry : Node → Except Problem (Nat × Nat)
  | .mapping _ [entry] => .ok entry
  | _ => .error .malformed

/-- The entries with one more. -/
def addEntry (entries : Entries Key Setting) (entry : Key × Setting) : Entries Key Setting :=
  match entry.1 with
  | .float .nan => entries ++ [entry]
  | key => entries.insert key entry.2

/-! ### Scalars -/

/-- The text of a node that has to be a scalar; that of a mapping is its default value. -/
def scalarText (graph : Graph) : Nat → Nat → Except Problem String
  | 0, _ => .error .endlessDefault
  | fuel + 1, number =>
    match graph.node number with
    | .scalar _ text => .ok text
    | .sequence _ _ => .error .malformed
    | .mapping _ entries =>
      match entries.find? fun (key, _) => (graph.node key).tag = .default with
      | some (_, value) => scalarText graph fuel value
      | none => .error .malformed

/-- Whether nodes of a type are lists or mappings. -/
def Tag.isCollection (tag : Tag) : Bool :=
  [.sequence, .mapping, .set, .pairs].contains tag

/-- The setting that a node denotes which is neither a list nor a mapping. -/
def scalar (graph : Graph) (number : Nat) : Except Problem Setting := do
  let node := graph.node number
  if [.merge, .default, .unknown].contains node.tag then throw .malformed
  let text ← scalarText graph (graph.length + 1) number
  match node with
  | .mapping .timestamp _ => throw .timeInMapping
  | _ => Scalar.value node.tag text

/-! ### Levels -/

/-- Makes the value of a node that is part of another one, and gives its number if its own parts are
still to be made. -/
def makePart (number : Nat) : Builder (List Nat) := do
  if ((← get).node number).tag.isCollection then return [number]
  else
    let _ ← scalar (← get) number
    return []

/-- Makes a key and its value. -/
def makeEntry (entry : Nat × Nat) : Builder (List Nat) := do
  if !(← makePart entry.1).isEmpty then throw .malformed
  makePart entry.2

/-- Makes the parts of a list or mapping, and gives those whose parts are still to be made. -/
def makeParts (fuel number : Nat) : Builder (List Nat) := do
  let node := (← get).node number
  let parts ← match node.tag, node with
    | .sequence, .sequence _ items => items.mapM makePart
    | .pairs, .sequence _ items => items.mapM fun item => do
      let (key, value) ← singleEntry ((← get).node item)
      return (← makePart key) ++ (← makePart value)
    | .mapping, _ => do (← flatten fuel number).mapM makeEntry
    | .set, _ => do (← flatten fuel number).mapM makeEntry
    | _, _ => throw .malformed
  return parts.flatten

/-- Makes the parts of all lists and mappings that wait for it, and then of those found in them. -/
def makeAll (size : Nat) : Nat → List Nat → List Nat → Builder Unit
  | 0, _, _ => return ()
  | _ + 1, _, [] => return ()
  | fuel + 1, seen, number :: waiting => do
    let found := ((← makeParts size number).filter (!seen.contains ·)).eraseDups
    makeAll size fuel (seen ++ found) (waiting ++ found)

/-! ### Values -/

/-- The setting that a node denotes. So many levels are written out in any case; below them a node
that is among those around it is only mentioned. -/
def value (graph : Graph) : Nat → Nat → List Nat → Nat → Except Problem Setting
  | 0, _, _, _ => .error .malformed
  | fuel + 1, levels, around, number => do
    let node := graph.node number
    if around.contains number then
      return .around (node.tag = .mapping)
    let part := value graph fuel (levels - 1) (if levels = 0 then number :: around else [])
    let entry (entry : Nat × Nat) : Except Problem (Key × Setting) := do
      let key ← (← part entry.1).toKey.mapError fun _ => Problem.malformed
      return (key, ← part entry.2)
    match node.tag, node with
    | .mapping, .mapping _ entries => return .map ((← entries.mapM entry).foldl addEntry [])
    | .set, .mapping _ entries => return .set ((← entries.mapM entry).foldl addEntry []).keys
    | .sequence, .sequence _ items => return .list (← items.mapM part)
    | .pairs, .sequence _ items => return .list (← items.mapM fun item => do
        let (key, value) ← singleEntry (graph.node item)
        return .tuple [← part key, ← part value])
    | _, _ => scalar graph number

/-- The setting that the root of a document denotes, which has less than `size` nodes and entries.
The root and the values of its entries are written out in any case: a configuration has no mappings
below them. -/
def Graph.value (size : Nat) (graph : Graph) (root : Nat) : Except Problem Setting := do
  let waiting ← (makePart root).run' graph
  let (_, graph) ← (makeAll size size waiting waiting).run graph
  Yaml.value graph size 2 [] root

/-- Whether a character may occur in a text. -/
def isAllowed (c : Char) : Bool :=
  let n := c.toNat
  n = 0x9 || n = 0xa || n = 0xd || (0x20 ≤ n && n ≤ 0x7e) || n = 0x85 ||
    (0xa0 ≤ n && n ≤ 0xd7ff) || (0xe000 ≤ n && n ≤ 0xfffd) || 0x10000 ≤ n

/-- Reads a text as one YAML document; an empty one is null. -/
def read (text : String) : Except Problem Setting := do
  if !text.toList.all isAllowed then throw .malformed
  let tokens := tokens (Text.unifyLines (· = '\r') text.toList)
  match ← Graph.ofTokens tokens with
  | none => return .null
  | some (graph, root) => graph.value (tokens.length + graph.length + 4) root

end Yaml

end PfaScript
