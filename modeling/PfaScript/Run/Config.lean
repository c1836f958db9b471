import PfaScript.Disk.Path
import PfaScript.Setting.Coerce
import PfaScript.Setting.Display
import PfaScript.Setting.Merge
import PfaScript.Text.LowerCase

/-!
# Configuration

How documents are rendered and where they are written. A configuration is read from a mapping of
settings, in which everything may be missing and nothing has a fixed type, and it can be overridden
by further mappings: `Config.override` writes the configuration back as a mapping, lays the
overrides over it and reads the result.
-/

namespace PfaScript

/-- The formats of documents. -/
inductive Format where
  | json
  | yaml
deriving DecidableEq, Repr

namespace Format

/-- The name of a format, which is also the ending of its files. -/
def name : Format → String
  | .json => "json"
  | .yaml => "yaml"

/-- The format with this name. -/
def ofName? : String → Option Format
  | "json" => some .json
  | "yaml" => some .yaml
  | _ => none

end Format

/-- Why a configuration cannot be read. -/
inductive ConfigError where
  | unsupportedFormat (name : String)
  | infiniteIndent
  /-- The directory is of this type and not a text. -/
  | directoryType (typeName : String)
  /-- The directory is given as bytes. -/
  | directoryBytes
  /-- The whole configuration is no mapping. -/
  | notAMapping (error : MappingError)
  /-- The overrides are of this type and not a mapping. -/
  | notOverrides (typeName : String)
deriving DecidableEq, Repr

/-- The wording of a configuration error. -/
def ConfigError.message : ConfigError → String
  | .unsupportedFormat name =>
    s!"unsupported output format '{name}' (expected one of ('json', 'yaml'))"
  | .infiniteIndent => "cannot convert float infinity to integer"
  | .directoryType typeName => s!"expected str, bytes or os.PathLike object, not {typeName}"
  | .directoryBytes =>
    "argument should be a str object or an os.PathLike object returning str, not <class 'bytes'>"
  | .notAMapping error => error.message
  | .notOverrides typeName => s!"'{typeName}' object has no attribute 'items'"

/-- How documents are rendered, and where they are written. -/
structure OutputOptions where
  format : Format := .json
  /-- Spaces for each level of nesting; without a number a document is one line. -/
  indent : Option Int := some 2
  sortKeys : Bool := false
  /-- Where documents are written if no other place is given. -/
  directory : Option Path := none
deriving DecidableEq, Repr

/-- The configuration of a run. -/
structure Config where
  /-- Whether documents keep their location markers. -/
  withLocations : Bool := true
  output : OutputOptions := {}
deriving DecidableEq, Repr

namespace OutputOptions

/-- The indentation that a setting means; one that is no integer counts as none. -/
def indentOf (setting : Setting) : Except ConfigError (Option Int) :=
  match setting.integer with
  | .ok n => .ok (some n)
  | .error .notAnInteger => .ok none
  | .error .infinite => .error .infiniteIndent

/-- The directory that a setting means. -/
def directoryOf : Setting → Except ConfigError (Option Path)
  | .null => .ok none
  | .str "" => .ok none
  | .str text => .ok (some (Path.ofText text))
  | .bytes _ => .error .directoryBytes
  | setting => .error (.directoryType setting.typeName)

/-- The options that a mapping gives. -/
def ofEntries (entries : Entries Key Setting) : Except ConfigError OutputOptions := do
  let format := Text.lower ((entries.get? (.str "format")).getD (.str "json")).text
  let indent ← match entries.get? (.str "indent") with
    | some setting => indentOf setting
    | none => .ok (some 2)
  let sortKeys := ((entries.get? (.str "sort_keys")).getD (.bool false)).truthy
  let directory ← directoryOf ((entries.get? (.str "directory")).getD .null)
  match Format.ofName? format with
  | some format => return { format, indent, sortKeys, directory }
  | none => .error (.unsupportedFormat format)

/-- The options that a setting gives: anything but a mapping leaves all of them as they are. -/
def ofSetting : Option Setting → Except ConfigError OutputOptions
  | some (.map entries) => ofEntries entries
  | _ => .ok {}

/-- The options as a mapping. -/
def toEntries (options : OutputOptions) : Entries Key Setting :=
  [(.str "format", .str options.format.name),
    (.str "indent", options.indent.elim .null .int),
    (.str "sort_keys", .bool options.sortKeys),
    (.str "directory", options.directory.elim .null fun path => .str path.toText)]

end OutputOptions

namespace Config

/-- The configuration that a mapping gives. -/
def ofEntries (entries : Entries Key Setting) : Except ConfigError Config := do
  let output ← OutputOptions.ofSetting (entries.get? (.str "output"))
  return { withLocations := ((entries.get? (.str "with_locations")).getD (.bool true)).truthy
           output }

/-- The configuration that a setting gives. -/
def ofSetting (setting : Setting) : Except ConfigError Config := do
  ofEntries (← setting.toEntries.mapError ConfigError.notAMapping)

/-- The configuration as a mapping. -/
def toEntries (config : Config) : Entries Key Setting :=
  [(.str "with_locations", .bool config.withLocations),
    (.str "output", .map config.output.toEntries)]

/-- The configuration with overrides laid over it. -/
def override (config : Config) (overrides : Setting) : Except ConfigError Config :=
  if !overrides.truthy then .ok config else
  match overrides with
  | .map entries => ofEntries (Setting.merge config.toEntries entries)
  | setting => .error (.notOverrides setting.typeName)

end Config

end PfaScript
