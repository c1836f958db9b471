import PfaScript.Setting.Basic
import PfaScript.Number.Layout
import PfaScript.Text.Quoted

/-!
# Settings as text

How settings appear in messages and where a text is wanted. `Setting.shown` writes any setting, with
quotes around texts; `Setting.text` leaves a text as it is, and writes a point in time plainly.
-/

namespace PfaScript

/-- A complex number: without its real part when that is plain zero. -/
def complexText (re im : Double) : String :=
  let imaginary := Layout.part.text im
  if re = Double.zero false then imaginary ++ "j"
  else
    let sign := if imaginary.startsWith "-" then "" else "+"
    "(" ++ Layout.part.text re ++ sign ++ imaginary ++ "j)"

/-- A truth value. -/
def truthText (b : Bool) : String :=
  if b then "True" else "False"

/-- Items with commas between them. -/
def commaSeparated (items : List String) : String :=
  ", ".intercalate items

/-- A tuple: one item is followed by a comma. -/
def tupleText : List String → String
  | [item] => "(" ++ item ++ ",)"
  | items => "(" ++ commaSeparated items ++ ")"

/-- An entry of a mapping. -/
def entryText (key value : String) : String :=
  key ++ ": " ++ value

/-- Items between braces. -/
def bracedText (items : List String) : String :=
  "\x7b" ++ commaSeparated items ++ "\x7d"

mutual

/-- A key as it is shown. -/
def Key.shown : Key → String
  | .null => "None"
  | .bool b => truthText b
  | .int n => toString n
  | .float x => Layout.shown.text x
  | .complex re im => complexText re im
  | .str s => Text.quoted s
  | .bytes b => Text.quotedBytes b
  | .moment m => m.shown
  | .ellipsis => "Ellipsis"
  | .tuple items => tupleText (Key.shownAll items)

/-- Keys as they are shown. -/
def Key.shownAll : List Key → List String
  | [] => []
  | key :: rest => key.shown :: Key.shownAll rest

end

namespace Setting

mutual

/-- A setting as it is shown. -/
def shown : Setting → String
  | .null => "None"
  | .bool b => truthText b
  | .int n => toString n
  | .float x => Layout.shown.text x
  | .complex re im => complexText re im
  | .str s => Text.quoted s
  | .bytes b => Text.quotedBytes b
  | .moment m => m.shown
  | .ellipsis => "Ellipsis"
  | .list items => "[" ++ commaSeparated (shownAll items) ++ "]"
  | .tuple items => tupleText (shownAll items)
  | .set [] => "set()"
  | .set items => bracedText (Key.shownAll items)
  | .map entries => bracedText (shownEntries entries)
  | .around isMap => if isMap then bracedText ["..."] else "[...]"

/-- Settings as they are shown. -/
def shownAll : List Setting → List String
  | [] => []
  | item :: rest => shown item :: shownAll rest

/-- Entries as they are shown. -/
def shownEntries : List (Key × Setting) → List String
  | [] => []
  | (key, value) :: rest => entryText key.shown (shown value) :: shownEntries rest

end

/-- A setting where a text is wanted. -/
def text : Setting → String
  | .str s => s
  | .moment m => m.text
  | setting => setting.shown

end Setting

/-- A JSON value where a text is wanted. -/
def Json.text (v : Json) : String :=
  (Setting.ofJson v).text

/-- The name of a JSON value's type in messages. -/
def Json.typeName (v : Json) : String :=
  (Setting.ofJson v).typeName

end PfaScript
