import PfaScript.Setting.Basic

/-!
# Literals among expressions

A literal denotes a setting. Not every expression is a literal, so `Literal.Expr.value` says which
setting an expression denotes, if any. The parts of an expression get their values in the order in
which they are written, and the first part without a value decides: a part that is no literal makes
the whole no literal, while a key that cannot be one and a number that is too large are errors.
-/

namespace PfaScript

namespace Literal

/-- An expression, as far as literals can be made of it. -/
inductive Expr where
  | constant (value : Setting)
  | name (value : String)
  | list (items : List Expr)
  | tuple (items : List Expr)
  | set (items : List Expr)
  | map (entries : List (Expr × Expr))
  /-- A sign before an expression. -/
  | signed (negative : Bool) (operand : Expr)
  /-- A sum or a difference. -/
  | sum (negative : Bool) (left right : Expr)
  /-- The call of a function without arguments. -/
  | call (function : Expr)
  /-- A member or an item of something. -/
  | access
  /-- Any other expression, which is never a literal. -/
  | other
deriving Inhabited

/-- Why an expression denotes no setting. -/
inductive Refusal where
  /-- It is not a literal. -/
  | notALiteral
  /-- A value of this type is used as a key or as an item of a set. -/
  | unhashable (typeName : String)
  /-- The whole number of a complex number is greater than every double. -/
  | tooLarge
deriving DecidableEq, Repr

/-- The number that an expression is, without a sign. -/
def Expr.number? : Expr → Option Setting
  | .constant (.int n) => some (.int n)
  | .constant (.float x) => some (.float x)
  | .constant (.complex re im) => some (.complex re im)
  | _ => none

/-- The number with the other sign. -/
def negatedNumber : Setting → Setting
  | .int n => .int (-n)
  | .float x => .float (-x)
  | .complex re im => .complex (-re) (-im)
  | value => value

/-- The number that an expression is, with at most one sign. -/
def Expr.signedNumber? : Expr → Option Setting
  | .signed negative operand =>
    operand.number?.map fun value => if negative then negatedNumber value else value
  | expr => expr.number?

/-- The real part of a complex number written as a sum: adding a positive zero takes the sign from a
zero, subtracting it does not. -/
def realPart (negative : Bool) (x : Double) : Double :=
  if x.isZero && !negative then Double.zero false else x

/-- The imaginary part of a complex number written as a sum. -/
def imaginaryPart (negative : Bool) (x : Double) : Double :=
  if negative && !x.isZero then -x else x

/-- The complex number that a sum is: a real number and an imaginary one. -/
def complexSum (negative : Bool) (left right : Expr) : Except Refusal Setting :=
  match left.signedNumber?, right.number? with
  | some (.int n), some (.complex _ im) =>
    let x := Double.ofInt n
    if x.isInfinite then .error .tooLarge
    else .ok (.complex (realPart negative x) (imaginaryPart negative im))
  | some (.float x), some (.complex _ im) =>
    .ok (.complex (realPart negative x) (imaginaryPart negative im))
  | _, _ => .error .notALiteral

/-- A setting as a key. -/
def keyOf (value : Setting) : Except Refusal Key :=
  value.toKey.mapError Refusal.unhashable

namespace Expr

mutual

/-- The setting that an expression denotes. -/
def value : Expr → Except Refusal Setting
  | .constant value => .ok value
  | .list items => do return .list (← values items)
  | .tuple items => do return .tuple (← values items)
  | .set items => do return .set (← keys [] items)
  | .map pairs => do return .map (← entries [] pairs)
  | .signed negative operand =>
    match Expr.signedNumber? (.signed negative operand) with
    | some value => .ok value
    | none => .error .notALiteral
  | .sum negative left right => complexSum negative left right
  | .call (.name "set") => .ok (.set [])
  | _ => .error .notALiteral

/-- The settings that expressions denote. -/
def values : List Expr → Except Refusal (List Setting)
  | [] => .ok []
  | item :: rest => do
    let first ← value item
    return first :: (← values rest)

/-- The items of a set, added to those found before. -/
def keys (found : List Key) : List Expr → Except Refusal (List Key)
  | [] => .ok found
  | item :: rest => do
    let item ← value item
    let key ← keyOf item
    keys (if found.any (· == key) then found else found ++ [key]) rest

/-- The entries of a mapping, added to those found before. -/
def entries (found : Entries Key Setting) :
    List (Expr × Expr) → Except Refusal (Entries Key Setting)
  | [] => .ok found
  | (key, item) :: rest => do
    let key ← value key
    let item ← value item
    let key ← keyOf key
    entries (found.insert key item) rest

end

end Expr

end Literal

end PfaScript
