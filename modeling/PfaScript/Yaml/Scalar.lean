import PfaScript.Number.Arithmetic
import PfaScript.Number.Written
import PfaScript.Setting.Basic
import PfaScript.Text.LowerCase
import PfaScript.Text.Basic
import PfaScript.Yaml.Node
import PfaScript.Yaml.Time

/-!
# Values of scalars

What the scalar nodes of a YAML text denote. The type of a scalar may be written before it, so a
scalar need not be a spelling of its type.
-/

namespace PfaScript

namespace Yaml

namespace Scalar

/-! ### Numbers -/

/-- The sign of a number and what follows it. -/
def splitSign : List Char → Bool × List Char
  | '-' :: rest => (true, rest)
  | '+' :: rest => (false, rest)
  | cs => (false, cs)

/-- The integer that digits write in a base. -/
def inBase (base : Nat) (digits : List Char) : Except Problem Int :=
  (Integer.inBase base digits).mapError fun
    | .notDigits => .notAnInteger base (String.ofList digits)
    | .tooManyDigits count => .longInteger count

/-- The size of an integer. Numbers of several parts with colons between them are in base sixty. -/
def integerSize (digits : List Char) : Except Problem Int :=
  match digits with
  | [] => .error .emptyNumber
  | ['0'] => .ok 0
  | '0' :: 'b' :: rest => inBase 2 rest
  | '0' :: 'x' :: rest => inBase 16 rest
  | '0' :: _ => inBase 8 digits
  | _ => do
    let parts ← (Text.split ':' digits).mapM (inBase 10)
    return parts.foldl (fun n part => 60 * n + part) 0

/-- The integer that a scalar writes; underscores do not count. -/
def integer (text : String) : Except Problem Int := do
  let (negative, digits) := splitSign (text.toList.filter (· ≠ '_'))
  let size ← integerSize digits
  return if negative then -size else size

/-- The number that digits write. -/
def number (digits : List Char) : Except Problem Double :=
  match Double.ofText? digits with
  | some x => .ok x
  | none => .error (.notANumber (String.ofList digits))

/-- The sum of the parts of a number in base sixty, given from the last to the first. The place of
every part has to be a double. -/
def sixtieths (base : Int) (sum : Double) : List Double → Except Problem Double
  | [] => .ok sum
  | part :: rest =>
    if (Double.ofInt base).isInfinite then .error .tooManyParts
    else sixtieths (60 * base) (sum + part * Double.ofInt base) rest

/-- The size of a number. Numbers of several parts with colons between them are in base sixty. -/
def floatSize (digits : List Char) : Except Problem Double := do
  if digits.contains ':' then
    let parts ← (Text.split ':' digits).mapM number
    sixtieths 1 (Double.zero false) parts.reverse
  else number digits

/-- The number that a scalar writes; underscores and the case of letters do not count. -/
def float (text : String) : Except Problem Double := do
  let cs := (Text.lower (String.ofList (text.toList.filter (· ≠ '_')))).toList
  let (negative, digits) := splitSign cs
  if cs.isEmpty then throw .emptyNumber
  else if digits = ".inf".toList then return .infinite negative
  else if digits = ".nan".toList then return .nan
  else
    let size ← floatSize digits
    return if negative then -size else size

/-! ### Other types -/

/-- The truth value that a scalar writes, in letters of any case. -/
def truth (text : String) : Except Problem Bool :=
  let word := Text.lower text
  if ["yes", "true", "on"].contains word then .ok true
  else if ["no", "false", "off"].contains word then .ok false
  else .error (.notATruthValue word)

/-- The value of a digit in base sixty-four. -/
def sixBits? (c : Char) : Option Nat :=
  if 'A' ≤ c && c ≤ 'Z' then some (c.toNat - 'A'.toNat)
  else if 'a' ≤ c && c ≤ 'z' then some (c.toNat - 'a'.toNat + 26)
  else if '0' ≤ c && c ≤ '9' then some (c.toNat - '0'.toNat + 52)
  else if c = '+' then some 62
  else if c = '/' then some 63
  else none

/-- The bytes that digits in base sixty-four write, after so many digits of a group of four, with
the bits that are left of the last one, and so many padding signs. Other characters do not count; a
group that is filled up by padding ends the bytes. -/
def bytesFrom? (place left padding : Nat) : List Char → Option (List UInt8)
  | [] => if place = 0 then some [] else none
  | c :: rest =>
    if c = '=' then
      if 2 ≤ place && 4 ≤ place + padding + 1 then some []
      else bytesFrom? place left (if 2 ≤ place then padding + 1 else padding) rest
    else match sixBits? c with
      | none => bytesFrom? place left padding rest
      | some bits =>
        match place with
        | 0 => bytesFrom? 1 bits 0 rest
        | 1 => do return UInt8.ofNat (4 * left + bits / 16) :: (← bytesFrom? 2 (bits % 16) 0 rest)
        | 2 => do return UInt8.ofNat (16 * left + bits / 4) :: (← bytesFrom? 3 (bits % 4) 0 rest)
        | _ => do return UInt8.ofNat (64 * left + bits) :: (← bytesFrom? 0 0 0 rest)

/-- The bytes that a scalar writes. -/
def bytes (text : String) : Except Problem (List UInt8) :=
  if text.toList.any (0x80 ≤ ·.toNat) then .error .malformed
  else match bytesFrom? 0 0 0 text.toList with
    | some bytes => .ok bytes
    | none => .error .malformed

/-- The setting that a scalar of a type denotes. Lists and mappings are no scalars; the keys of
default values and of merged mappings denote nothing. -/
def value (tag : Tag) (text : String) : Except Problem Setting :=
  match tag with
  | .null => .ok .null
  | .truth => (truth text).map .bool
  | .integer => (integer text).map .int
  | .float => (float text).map .float
  | .timestamp => (Time.moment text).map .moment
  | .binary => (bytes text).map .bytes
  | .text => .ok (.str text)
  | _ => .error .malformed

end Scalar

end Yaml

end PfaScript
