import PfaScript.Json.Basic
import PfaScript.Number.Layout

/-!
# Writing JSON

`Json.render` writes a value as a JSON text in ASCII: every other character is written as one `\u`
escape or, beyond the first plane, as two. With an indent each item stands on a line of its own;
without one the value is a single line.

`Json.page` is the text of a file. There is none if an integer has too many digits, or if the indent
is no number of a machine word, which is looked at for everything but a single text. The memory that
a text needs is taken to be there, also for the spaces of a wide indent.
-/

namespace PfaScript

namespace Json

/-- How a JSON text is laid out. -/
structure Style where
  /-- Spaces for each level of nesting, a negative number counting as zero; `none` writes one line.
  -/
  indent : Option Int := some 2
  /-- Whether the entries of objects are written in the order of their keys. -/
  sortKeys : Bool := false
deriving DecidableEq, Repr

namespace Printer

/-- A hexadecimal digit in lower case. -/
def hexDigit (n : Nat) : Char :=
  Nat.digitChar n

/-- The escape of a code unit. -/
def unitEscape (unit : Nat) : List Char :=
  ['\\', 'u', hexDigit (unit / 4096 % 16), hexDigit (unit / 256 % 16), hexDigit (unit / 16 % 16),
    hexDigit (unit % 16)]

/-- A character of a string, between the quotes. -/
def charText (c : Char) : List Char :=
  if c = '"' then ['\\', '"']
  else if c = '\\' then ['\\', '\\']
  else if c = '\n' then ['\\', 'n']
  else if c = '\r' then ['\\', 'r']
  else if c = '\t' then ['\\', 't']
  else if c = '\x08' then ['\\', 'b']
  else if c = '\x0c' then ['\\', 'f']
  else if 0x20 ≤ c.toNat ∧ c.toNat ≤ 0x7e then [c]
  else if c.toNat < 0x10000 then unitEscape c.toNat
  else
    unitEscape (0xd800 + (c.toNat - 0x10000) / 0x400) ++
      unitEscape (0xdc00 + (c.toNat - 0x10000) % 0x400)

/-- A string with its quotes. -/
def string (s : String) : List Char :=
  '"' :: (s.toList.flatMap charText ++ ['"'])

/-- An integer in decimal digits. -/
def integer (n : Int) : List Char :=
  if n < 0 then '-' :: Layout.natDigits n.natAbs else Layout.natDigits n.natAbs

/-- What separates an opening bracket from the first item, and the last item from the closing one:
a new line with its indentation, or nothing. -/
def gap (indent : Option Nat) (level : Nat) : List Char :=
  match indent with
  | none => []
  | some width => '\n' :: List.replicate (width * level) ' '

/-- What separates two items. -/
def comma (indent : Option Nat) (level : Nat) : List Char :=
  match indent with
  | none => [',', ' ']
  | some _ => ',' :: gap indent level

/-- Texts with commas between them in brackets that stand `level` levels deep. -/
def bracketed (indent : Option Nat) (level : Nat) (opening closing : Char) :
    List (List Char) → List Char
  | [] => [opening, closing]
  | first :: rest =>
    opening :: (gap indent (level + 1) ++ first ++
      rest.flatMap (comma indent (level + 1) ++ ·) ++ gap indent level ++ [closing])

mutual

/-- The text of a value that stands `level` levels deep. -/
def value (indent : Option Nat) (level : Nat) : Json → List Char
  | .null => "null".toList
  | .bool true => "true".toList
  | .bool false => "false".toList
  | .int n => integer n
  | .float x => (Layout.json.text x).toList
  | .str s => string s
  | .arr items => bracketed indent level '[' ']' (values indent (level + 1) items)
  | .obj fields => bracketed indent level '{' '}' (members indent (level + 1) fields)

/-- The texts of items. -/
def values (indent : Option Nat) (level : Nat) : List Json → List (List Char)
  | [] => []
  | item :: rest => value indent level item :: values indent level rest

/-- The texts of fields. -/
def members (indent : Option Nat) (level : Nat) : List (String × Json) → List (List Char)
  | [] => []
  | (key, item) :: rest =>
    (string key ++ ':' :: ' ' :: value indent level item) :: members indent level rest

end

end Printer

/-- The text of a value, without the limits of what can be written. -/
def render (style : Style) (v : Json) : String :=
  let v := if style.sortKeys then v.sortKeys else v
  String.ofList (Printer.value (style.indent.map Int.toNat) 0 v)

/-! ### Limits -/

/-- Why a value cannot be written. -/
inductive WriteError where
  /-- The indent does not fit into a machine word. -/
  | wideIndent
  /-- An integer has too many digits. -/
  | longInteger
deriving DecidableEq, Repr

/-- The wording of a write error. -/
def WriteError.message : WriteError → String
  | .wideIndent => "cannot fit 'int' into an index-sized integer"
  | .longInteger => Integer.longIntegerMessage

/-- Whether an indent fits into a machine word, if there is one. -/
def Style.indentFits (style : Style) : Bool :=
  style.indent.all fun n => decide (-0x8000000000000000 ≤ n ∧ n < 0x8000000000000000)

/-- The text of a JSON file. -/
def page (style : Style) (v : Json) : Except WriteError String :=
  if !(style.indentFits || v.isText) then .error .wideIndent
  else if v.hasLong then .error .longInteger
  else .ok (v.render style ++ "\n")

end Json

end PfaScript
