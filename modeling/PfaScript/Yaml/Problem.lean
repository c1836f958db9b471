import PfaScript.Number.Integer
import PfaScript.Setting.Moment
import PfaScript.Text.Quoted

/-!
# Problems with YAML texts

Why a text cannot be read as YAML. Most faults of a text are not told apart. The exceptions are
scalars that do not write a value of their type: each of these has a wording of its own.
-/

namespace PfaScript

namespace Yaml

/-- Why a text is not read. -/
inductive Problem where
  /-- The text is no YAML document, or a node cannot be of its type. -/
  | malformed
  /-- A scalar or a part of one is no integer in this base. -/
  | notAnInteger (base : Nat) (text : String)
  /-- A scalar or a part of one has this number of digits, which is too many. -/
  | longInteger (digits : Nat)
  /-- A scalar or a part of one is no number. -/
  | notANumber (text : String)
  /-- A number in base sixty has so many parts that the place of one exceeds every double. -/
  | tooManyParts
  /-- A scalar is no truth value. -/
  | notATruthValue (text : String)
  /-- A number has no digits at all. -/
  | emptyNumber
  /-- A scalar is no point in time. -/
  | notATime
  /-- A point in time is given as the default value of a mapping. -/
  | timeInMapping
  /-- A point in time has a part, of this name, that lies outside of these limits. -/
  | outOfLimits (part : String) (least greatest : Nat)
  | yearZero
  | noSuchDay
  /-- The time zone is this number of minutes away, a day or more. -/
  | zoneTooFar (minutes : Int)
  /-- An escape has a code that is no character's. -/
  | noSuchCharacter
  /-- An escape has a code that is too large for a machine word. -/
  | codeTooLarge
  /-- A mapping is its own default value. -/
  | endlessDefault
deriving DecidableEq, Repr

/-- The wording of a problem. -/
def Problem.message : Problem → String
  | .malformed => "malformed"
  | .notAnInteger base text =>
    s!"invalid literal for int() with base {base}: {Text.quoted text}"
  | .longInteger digits => Integer.longTextMessage digits
  | .notANumber text => s!"could not convert string to float: {Text.quoted text}"
  | .tooManyParts => "int too large to convert to float"
  | .notATruthValue text => Text.quoted text
  | .emptyNumber => "string index out of range"
  | .notATime => "'NoneType' object has no attribute 'groupdict'"
  | .timeInMapping => "expected string or bytes-like object, got 'list'"
  | .outOfLimits part least greatest => s!"{part} must be in {least}..{greatest}"
  | .yearZero => "year 0 is out of range"
  | .noSuchDay => "day is out of range for month"
  | .zoneTooFar minutes =>
    "offset must be a timedelta strictly between -timedelta(hours=24) and " ++
      s!"timedelta(hours=24), not {spanText minutes}."
  | .noSuchCharacter => "chr() arg not in range(0x110000)"
  | .codeTooLarge => "Python int too large to convert to C int"
  | .endlessDefault => "maximum recursion depth exceeded"

end Yaml

end PfaScript
