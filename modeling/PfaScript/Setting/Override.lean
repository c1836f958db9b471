import PfaScript.Literal.Grammar
import PfaScript.Text.Basic
import PfaScript.Text.LowerCase

/-!
# Overrides

Settings given on the command line, such as `output.indent=4`. The key is a path of names with
points between them; the value is a literal, one of the words `true`, `false`, `null` and `none`, or
else the text itself. Overrides are read one after the other into one nested mapping.
-/

namespace PfaScript

/-- Why overrides cannot be read. -/
inductive OverrideError where
  | missingValue (item : String)
  | emptyKey
  /-- A part of the path is already bound to something else than a mapping. -/
  | conflict (key : String)
  /-- A literal has a key of a type that cannot be one. -/
  | unhashable (typeName : String)
  /-- A literal has a number that is greater than every double where a double is needed. -/
  | tooLarge
deriving DecidableEq, Repr

/-- The wording of an override error. -/
def OverrideError.message : OverrideError → String
  | .missingValue item => s!"override '{item}' is missing '='"
  | .emptyKey => "override key must not be empty"
  | .conflict key => s!"override '{key}' conflicts with an existing value"
  | .unhashable typeName => s!"unhashable type: '{typeName}'"
  | .tooLarge => "int too large to convert to float"

/-- The setting that a text denotes, which is the text itself if nothing else. -/
def Setting.ofText (text : String) : Except OverrideError Setting :=
  match Text.lower (String.ofList (Text.trim text.toList)) with
  | "true" => .ok (.bool true)
  | "false" => .ok (.bool false)
  | "null" => .ok .null
  | "none" => .ok .null
  | _ =>
    match (Literal.parse? text).map Literal.Expr.value with
    | none => .ok (.str text)
    | some (.ok value) => .ok value
    | some (.error .notALiteral) => .ok (.str text)
    | some (.error (.unhashable typeName)) => .error (.unhashable typeName)
    | some (.error .tooLarge) => .error .tooLarge

namespace Override

/-- The text before the first equals sign and the text after it. -/
def split? : List Char → Option (List Char × List Char)
  | [] => none
  | '=' :: rest => some ([], rest)
  | c :: rest => (split? rest).map fun (key, value) => (c :: key, value)

/-- The names of a path, with points between them; empty names do not count. -/
def path (key : String) : List String :=
  ((Text.split '.' key.toList).filter (!·.isEmpty)).map String.ofList

/-- Whether a proper beginning of a path is bound to something else than a mapping. -/
def isBlocked (entries : Entries Key Setting) : List String → Bool
  | [] => false
  | [_] => false
  | name :: rest =>
    match entries.get? (.str name) with
    | none => false
    | some (.map inner) => isBlocked inner rest
    | some _ => true

/-- The mapping with a value assigned at a path. -/
def assign (value : Setting) (entries : Entries Key Setting) : List String → Entries Key Setting
  | [] => entries
  | [name] => entries.insert (.str name) value
  | name :: rest =>
    let inner := match entries.get? (.str name) with
      | some (.map inner) => inner
      | _ => []
    entries.insert (.str name) (.map (assign value inner rest))

/-- The mapping with one more override. -/
def add (entries : Entries Key Setting) (item : String) :
    Except OverrideError (Entries Key Setting) :=
  match split? item.toList with
  | none => .error (.missingValue item)
  | some (key, text) =>
    let key := String.ofList key
    let names := path key
    if names.isEmpty then .error .emptyKey
    else if isBlocked entries names then .error (.conflict key)
    else do
      let value ← Setting.ofText (String.ofList text)
      return assign value entries names

/-- The mapping that overrides make together. -/
def readAll (items : List String) : Except OverrideError (Entries Key Setting) :=
  items.foldlM add []

end Override

end PfaScript
