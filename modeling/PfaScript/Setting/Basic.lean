import PfaScript.Json.Basic
import PfaScript.Setting.Moment

/-!
# Settings

The values that configuration files and command-line overrides can give. They are richer than JSON:
besides lists there are tuples and sets, besides texts there are bytes and points in time, and a
mapping may have any key that cannot change, such as a number or a tuple. A list or mapping may also
hold itself.

Keys that denote the same number are the same key, however they are written: `1`, `1.0` and `True`.
-/

namespace PfaScript

/-- A value that can be the key of a mapping or the item of a set. -/
inductive Key where
  | null
  | bool (value : Bool)
  | int (value : Int)
  | float (value : Double)
  | complex (re im : Double)
  | str (value : String)
  | bytes (value : List UInt8)
  | moment (value : Moment)
  | ellipsis
  | tuple (items : List Key)
deriving Inhabited, Repr

/-- A value of a configuration. -/
inductive Setting where
  | null
  | bool (value : Bool)
  | int (value : Int)
  | float (value : Double)
  | complex (re im : Double)
  | str (value : String)
  | bytes (value : List UInt8)
  | moment (value : Moment)
  | ellipsis
  | list (items : List Setting)
  | tuple (items : List Setting)
  | set (items : List Key)
  | map (entries : List (Key × Setting))
  /-- A list or a mapping around this place, which therefore holds itself. -/
  | around (isMap : Bool)
deriving Inhabited, Repr

/-! ### Keys -/

namespace Key

/-- A part of a number, such that equal parts are the same number. -/
inductive Part where
  | whole (value : Int)
  | other (value : Double)
deriving DecidableEq

/-- The part that a double is. -/
def Part.ofDouble (x : Double) : Part :=
  match x.toInt? with
  | some n => .whole n
  | none => .other x

/-- The real and imaginary part of a key that is a number. -/
def number? : Key → Option (Part × Part)
  | .bool b => some (.whole (if b then 1 else 0), .whole 0)
  | .int n => some (.whole n, .whole 0)
  | .float x => some (.ofDouble x, .whole 0)
  | .complex re im => some (.ofDouble re, .ofDouble im)
  | _ => none

mutual

/-- Whether two keys are the same key. -/
def same : Key → Key → Bool
  | .null, .null => true
  | .ellipsis, .ellipsis => true
  | .str a, .str b => a == b
  | .bytes a, .bytes b => a == b
  | .moment a, .moment b => a.same b
  | .tuple as, .tuple bs => sameAll as bs
  | a, b =>
    match a.number?, b.number? with
    | some x, some y => decide (x = y)
    | _, _ => false

/-- Whether two lists hold the same keys in the same order. -/
def sameAll : List Key → List Key → Bool
  | [], [] => true
  | a :: as, b :: bs => same a b && sameAll as bs
  | _, _ => false

end

instance : BEq Key := ⟨same⟩

end Key

/-! ### Settings and keys -/

mutual

/-- A key as a setting. -/
def Key.toSetting : Key → Setting
  | .null => .null
  | .bool b => .bool b
  | .int n => .int n
  | .float x => .float x
  | .complex re im => .complex re im
  | .str s => .str s
  | .bytes b => .bytes b
  | .moment m => .moment m
  | .ellipsis => .ellipsis
  | .tuple items => .tuple (Key.toSettings items)

/-- Keys as settings. -/
def Key.toSettings : List Key → List Setting
  | [] => []
  | key :: rest => key.toSetting :: Key.toSettings rest

end

namespace Setting

/-- The name of a setting's type in messages. -/
def typeName : Setting → String
  | .null => "NoneType"
  | .bool _ => "bool"
  | .int _ => "int"
  | .float _ => "float"
  | .complex _ _ => "complex"
  | .str _ => "str"
  | .bytes _ => "bytes"
  | .moment m => m.typeName
  | .ellipsis => "ellipsis"
  | .list _ => "list"
  | .tuple _ => "tuple"
  | .set _ => "set"
  | .map _ => "dict"
  | .around isMap => if isMap then "dict" else "list"

mutual

/-- A setting as a key; otherwise the type that cannot be one. -/
def toKey : Setting → Except String Key
  | .null => .ok .null
  | .bool b => .ok (.bool b)
  | .int n => .ok (.int n)
  | .float x => .ok (.float x)
  | .complex re im => .ok (.complex re im)
  | .str s => .ok (.str s)
  | .bytes b => .ok (.bytes b)
  | .moment m => .ok (.moment m)
  | .ellipsis => .ok .ellipsis
  | .tuple items => do return .tuple (← toKeys items)
  | .list _ => .error "list"
  | .set _ => .error "set"
  | .map _ => .error "dict"
  | .around isMap => .error (if isMap then "dict" else "list")

/-- Settings as keys; otherwise the first type that cannot be one. -/
def toKeys : List Setting → Except String (List Key)
  | [] => .ok []
  | item :: rest => do return (← toKey item) :: (← toKeys rest)

end

/-! ### JSON values as settings -/

mutual

/-- A JSON value as a setting. -/
def ofJson : Json → Setting
  | .null => .null
  | .bool b => .bool b
  | .int n => .int n
  | .float x => .float x
  | .str s => .str s
  | .arr items => .list (ofItems items)
  | .obj fields => .map (ofFields fields)

/-- The items of a JSON array as settings. -/
def ofItems : List Json → List Setting
  | [] => []
  | item :: rest => ofJson item :: ofItems rest

/-- The fields of a JSON object as entries. -/
def ofFields : List (String × Json) → List (Key × Setting)
  | [] => []
  | (key, item) :: rest => (.str key, ofJson item) :: ofFields rest

end

end Setting

end PfaScript
