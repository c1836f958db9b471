import PfaScript.Setting.Basic
import PfaScript.Number.Integer

/-!
# Loosely typed settings

What a setting means where a truth value, an integer or a mapping is wanted.
-/

namespace PfaScript

/-- Why a setting is not an integer. -/
inductive IntegerError where
  /-- The setting is an infinite number. -/
  | infinite
  /-- The setting is of another type, or a text that writes no integer. -/
  | notAnInteger
deriving DecidableEq, Repr

/-- Why a setting is not a mapping. -/
inductive MappingError where
  /-- The setting has no items. -/
  | notIterable (typeName : String)
  /-- An item is not itself a sequence. -/
  | notAPair (index : Nat)
  /-- An item has a length other than two. -/
  | wrongLength (index length : Nat)
  /-- The first of two items cannot be a key. -/
  | unhashable (typeName : String)
deriving DecidableEq, Repr

/-- The wording of a mapping error. -/
def MappingError.message : MappingError → String
  | .notIterable typeName => s!"'{typeName}' object is not iterable"
  | .notAPair index =>
    s!"cannot convert dictionary update sequence element #{index} to a sequence"
  | .wrongLength index length =>
    s!"dictionary update sequence element #{index} has length {length}; 2 is required"
  | .unhashable typeName => s!"unhashable type: '{typeName}'"

namespace Setting

/-- Whether a setting counts as true: zeros and whatever is empty do not. -/
def truthy : Setting → Bool
  | .null => false
  | .bool b => b
  | .int n => n ≠ 0
  | .float x => !x.isZero
  | .complex re im => !(re.isZero && im.isZero)
  | .str s => !s.isEmpty
  | .bytes b => !b.isEmpty
  | .moment _ => true
  | .ellipsis => true
  | .list items => !items.isEmpty
  | .tuple items => !items.isEmpty
  | .set items => !items.isEmpty
  | .map entries => !entries.isEmpty
  | .around _ => true

/-- The integer of a double, toward zero. -/
def integerOfDouble (x : Double) : Except IntegerError Int :=
  match x with
  | .infinite _ => .error .infinite
  | x => match x.truncate? with
    | some n => .ok n
    | none => .error .notAnInteger

/-- The integer that a setting means. -/
def integer : Setting → Except IntegerError Int
  | .bool b => .ok (if b then 1 else 0)
  | .int n => .ok n
  | .float x => integerOfDouble x
  | .str s => (Integer.ofText? s).elim (.error .notAnInteger) .ok
  | .bytes codes =>
    -- Bytes beyond ASCII write no integer, whatever character has their number.
    let s := String.ofList (codes.map fun b => if b < 0x80 then Char.ofNat b.toNat else '?')
    (Integer.ofText? s).elim (.error .notAnInteger) .ok
  | _ => .error .notAnInteger

/-- The items of a setting that has any, in order: a text has its characters, a mapping its keys. -/
def items? : Setting → Option (List Setting)
  | .str s => some (s.toList.map fun c => .str (String.singleton c))
  | .bytes b => some (b.map fun n => .int n.toNat)
  | .list items => some items
  | .tuple items => some items
  | .set items => some (items.map Key.toSetting)
  | .map entries => some (entries.map fun entry => entry.1.toSetting)
  | _ => none

/-- The entries given by a list of pairs, the first of which has this index. -/
def pairs (index : Nat) (entries : Entries Key Setting) :
    List Setting → Except MappingError (Entries Key Setting)
  | [] => .ok entries
  | item :: rest =>
    match item.items? with
    | none => .error (.notAPair index)
    | some [first, second] =>
      match first.toKey with
      | .ok key => pairs (index + 1) (entries.insert key second) rest
      | .error typeName => .error (.unhashable typeName)
    | some items => .error (.wrongLength index items.length)

/-- The entries of a setting where a mapping is wanted: a mapping's own, those given by a list of
pairs, and none for whatever does not count as true. -/
def toEntries (setting : Setting) : Except MappingError (Entries Key Setting) :=
  if !setting.truthy then .ok [] else
  match setting with
  | .map entries => .ok entries
  | setting =>
    match setting.items? with
    | some items => pairs 0 [] items
    | none => .error (.notIterable setting.typeName)

end Setting

/-- Whether a JSON value counts as true. -/
def Json.truthy (v : Json) : Bool :=
  (Setting.ofJson v).truthy

/-- The integer that a JSON value means. -/
def Json.integer (v : Json) : Except IntegerError Int :=
  (Setting.ofJson v).integer

end PfaScript
