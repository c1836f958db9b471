import PfaScript.Entries
import PfaScript.Number.Double
import PfaScript.Number.Integer

/-!
# JSON values

The values that scripts, documents and settings are written in. Objects keep the order of their
entries, and integers are kept apart from doubles: `1` and `1.0` are different values.
-/

namespace PfaScript

/-- A JSON value. -/
inductive Json where
  /-- The value `null`. -/
  | null
  /-- A truth value. -/
  | bool (value : Bool)
  /-- A number written without fraction and exponent, of any size. -/
  | int (value : Int)
  /-- A number written with a fraction or an exponent. -/
  | float (value : Double)
  /-- A text. -/
  | str (value : String)
  /-- A list of values. -/
  | arr (items : List Json)
  /-- A mapping from texts to values. -/
  | obj (fields : List (String × Json))
deriving Inhabited, Repr

namespace Json

/-- The value of a field, if this is an object that has it. -/
def field? : Json → String → Option Json
  | .obj fields, key => Entries.get? fields key
  | _, _ => none

/-- Whether this is an object. -/
def isObject : Json → Bool
  | .obj _ => true
  | _ => false

/-- Whether this is `null`. -/
def isNull : Json → Bool
  | .null => true
  | _ => false

/-- Whether this is a text. -/
def isText : Json → Bool
  | .str _ => true
  | _ => false

mutual

/-- The values in a value that are neither lists nor mappings. -/
def atoms : Json → List Json
  | .arr items => atomsItems items
  | .obj fields => atomsFields fields
  | v => [v]

/-- `atoms` of every item. -/
def atomsItems : List Json → List Json
  | [] => []
  | item :: rest => atoms item ++ atomsItems rest

/-- `atoms` of every field's value. -/
def atomsFields : List (String × Json) → List Json
  | [] => []
  | (_, value) :: rest => atoms value ++ atomsFields rest

end

/-- Whether this is an integer with too many digits. -/
def isLong : Json → Bool
  | .int n => Integer.isLong n
  | _ => false

/-- Whether there is an integer with too many digits in a value. -/
def hasLong (v : Json) : Bool :=
  v.atoms.any isLong

mutual

/-- The value with the entries of every object in the order of their keys' code points. -/
def sortKeys : Json → Json
  | .arr items => .arr (sortItems items)
  | .obj fields => .obj ((sortFields fields).mergeSort fun a b => decide (a.1 ≤ b.1))
  | .null => .null
  | .bool b => .bool b
  | .int n => .int n
  | .float x => .float x
  | .str s => .str s

/-- `sortKeys` of every item. -/
def sortItems : List Json → List Json
  | [] => []
  | item :: rest => sortKeys item :: sortItems rest

/-- `sortKeys` of every field's value. -/
def sortFields : List (String × Json) → List (String × Json)
  | [] => []
  | (key, value) :: rest => (key, sortKeys value) :: sortFields rest

end

/-- The fields of an object as `sortKeys` leaves them. -/
def sortEntries (fields : List (String × Json)) : List (String × Json) :=
  (sortFields fields).mergeSort fun a b => decide (a.1 ≤ b.1)

theorem sortKeys_obj (fields : List (String × Json)) :
    (obj fields).sortKeys = obj (sortEntries fields) := by
  rw [sortKeys, sortEntries]

end Json

end PfaScript
