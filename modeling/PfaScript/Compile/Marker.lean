import PfaScript.Json.Basic
import PfaScript.Script.Span

/-!
# Location markers

A document remembers where in the script its parts came from: an object may carry, under the key
`@`, the lines of the source file. `tagged` attaches markers, `Json.strip` removes them all and
`Json.hasMarkers` says whether there are any.
-/

namespace PfaScript

/-- The key of location markers. -/
def markerKey : String := "@"

/-- The marker of a place, as the first entry of an object; an unknown place has none. -/
def marker (span : Option Span) : Entries String Json :=
  match span with
  | some span => [(markerKey, .str span.describe)]
  | none => []

/-- The entries of an object that comes from the given place. -/
def taggedEntries (span : Option Span) (entries : Entries String Json) : Entries String Json :=
  (marker span).update entries

/-- The object with these entries that comes from the given place. -/
def tagged (span : Option Span) (entries : Entries String Json) : Json :=
  .obj (taggedEntries span entries)

namespace Json

mutual

/-- The value without any markers. -/
def strip : Json → Json
  | .arr items => .arr (stripItems items)
  | .obj fields => .obj (stripFields fields)
  | .null => .null
  | .bool b => .bool b
  | .int n => .int n
  | .float x => .float x
  | .str s => .str s

/-- `strip` of every item. -/
def stripItems : List Json → List Json
  | [] => []
  | item :: rest => strip item :: stripItems rest

/-- The fields other than markers, stripped. -/
def stripFields : List (String × Json) → List (String × Json)
  | [] => []
  | (key, value) :: rest =>
    if key = markerKey then stripFields rest else (key, strip value) :: stripFields rest

end

mutual

/-- Whether a value has a marker at any depth. -/
def hasMarkers : Json → Bool
  | .arr items => itemsHaveMarkers items
  | .obj fields => fieldsHaveMarkers fields
  | _ => false

/-- Whether some item has a marker. -/
def itemsHaveMarkers : List Json → Bool
  | [] => false
  | item :: rest => hasMarkers item || itemsHaveMarkers rest

/-- Whether some field is a marker or has one in its value. -/
def fieldsHaveMarkers : List (String × Json) → Bool
  | [] => false
  | (key, value) :: rest => key = markerKey || hasMarkers value || fieldsHaveMarkers rest

end

end Json

end PfaScript
