import PfaScript.Text.Pattern

/-!
# Plain scalars of YAML

A scalar that is written without quotes may stand for something else than a text: `no` is a truth
value, `010` is the number eight and `12:30` is a number in base sixty. `Yaml.Plain.classify` says
what a plain scalar stands for. Readers use it to give scalars their values, and writers to put
quotes around texts that would be read as something else.
-/

namespace PfaScript

namespace Yaml

/-- What a plain scalar stands for. -/
inductive Plain where
  | null
  | truth
  | integer
  | float
  | timestamp
  /-- The key that merges another mapping. -/
  | merge
  /-- The key of a mapping's default value. -/
  | default
  | text
deriving DecidableEq, Repr

namespace Plain

open Pattern

/-- The spellings of null. -/
def nullWords : List String := ["", "~", "null", "Null", "NULL"]

/-- The spellings of true. -/
def trueWords : List String := ["yes", "Yes", "YES", "true", "True", "TRUE", "on", "On", "ON"]

/-- The spellings of false. -/
def falseWords : List String := ["no", "No", "NO", "false", "False", "FALSE", "off", "Off", "OFF"]

/-- A sign or none. -/
def sign : Pattern := optional (anyOf "-+")

/-- A decimal digit or an underscore. -/
def spacedDigit : Pattern := anyOf "0123456789_"

/-- A place of a number in base sixty, after its colon. -/
def sixtieth : Pattern := all [word ":", optional (anyOf "012345"), digit]

/-- An exponent: its sign must be written. -/
def exponent : Pattern := all [anyOf "eE", anyOf "-+", many digit]

/-- Integers: binary, octal, decimal, hexadecimal and in base sixty. -/
def integerPattern : Pattern :=
  .seq sign (any [
    .seq (word "0b") (many (anyOf "01_")),
    .seq (word "0") (many (anyOf "01234567_")),
    word "0",
    .seq (anyOf "123456789") (.star spacedDigit),
    .seq (word "0x") (many (anyOf "0123456789abcdefABCDEF_")),
    all [anyOf "123456789", .star spacedDigit, many sixtieth]])

/-- Numbers with a point: decimal and in base sixty, infinity and what is not a number. -/
def floatPattern : Pattern :=
  any [
    all [sign, digit, .star spacedDigit, word ".", .star spacedDigit, optional exponent],
    all [word ".", digit, .star spacedDigit, optional exponent],
    all [sign, digit, .star spacedDigit, many sixtieth, word ".", .star spacedDigit],
    all [sign, word ".", any [word "inf", word "Inf", word "INF"]],
    .seq (word ".") (any [word "nan", word "NaN", word "NAN"])]

/-- Days, and times of a day with an optional time zone. -/
def timestampPattern : Pattern :=
  let two := Pattern.seq digit digit
  let oneOrTwo := Pattern.seq digit (optional digit)
  let year := Pattern.seq two two
  let zone := all [.star (anyOf " \t"),
    .alt (word "Z") (all [anyOf "-+", oneOrTwo, optional (.seq (word ":") two)])]
  .alt (all [year, word "-", two, word "-", two])
    (all [year, word "-", oneOrTwo, word "-", oneOrTwo, .alt (anyOf "Tt") (many (anyOf " \t")),
      oneOrTwo, word ":", two, word ":", two, optional (.seq (word ".") (.star digit)),
      optional zone])

/-- What a plain scalar stands for. -/
def classify (cs : List Char) : Plain :=
  let s := String.ofList cs
  if nullWords.contains s then .null
  else if trueWords.contains s || falseWords.contains s then .truth
  else if s = "=" then .default
  else if s = "<<" then .merge
  else if integerPattern.accepts cs then .integer
  else if floatPattern.accepts cs then .float
  else if timestampPattern.accepts cs then .timestamp
  else .text

end Plain

end Yaml

end PfaScript
