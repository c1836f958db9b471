import PfaScript.Proofs.Completion
import PfaScript.Proofs.Dialect
import PfaScript.Proofs.Placeless

/-!
# Which failures escape

A command ends with status zero, or with status one and a report. The failures that escape instead
all have a cause in the input, and `Command.Escapes` lists these causes: an override with a literal
that denotes nothing, a scalar that is not of the type it is said to have, an infinite indent, one
that does not fit into a machine word, a directory that is no text, and a script with an infinite
line or column. A command fails without a report exactly if it meets one of them
(`Command.reports_or_escapes`).
-/

namespace PfaScript

/-! ### Causes -/

/-- The problems with a scalar that are not reported. -/
inductive Yaml.Problem.Escapes : Problem → Prop
  | notATruthValue (text : String) : Escapes (.notATruthValue text)
  | tooManyParts : Escapes .tooManyParts
  | emptyNumber : Escapes .emptyNumber
  | notATime : Escapes .notATime
  | timeInMapping : Escapes .timeInMapping
  | codeTooLarge : Escapes .codeTooLarge
  | endlessDefault : Escapes .endlessDefault

/-- Why an override is not read and not reported either, after others that gave these entries: the
text of its value is a literal that denotes nothing. -/
def Override.Escapes (entries : Entries Key Setting) (item : String) (error : OverrideError) :
    Prop :=
  ∃ key text, split? item.toList = some (key, text) ∧ path (String.ofList key) ≠ [] ∧
    isBlocked entries (path (String.ofList key)) = false ∧
    Setting.ofText (String.ofList text) = .error error

/-- A directory that is no text, nor missing. -/
inductive OutputOptions.NoDirectory : Setting → ConfigError → Prop
  | bytes (codes : List UInt8) : NoDirectory (.bytes codes) .directoryBytes
  | type {setting : Setting} (hnull : setting ≠ .null) (hstr : ∀ text, setting ≠ .str text)
      (hbytes : ∀ codes, setting ≠ .bytes codes) :
      NoDirectory setting (.directoryType setting.typeName)

/-- Why the options in a mapping cannot be used, beside the name of the format: the indentation is
an infinite number, or else the directory is no text. -/
inductive OutputOptions.Escapes (entries : Entries Key Setting) : ConfigError → Prop
  | indent {negative : Bool}
      (h : entries.get? (.str "indent") = some (.float (.infinite negative))) :
      Escapes entries .infiniteIndent
  | directory {setting : Setting} {error : ConfigError}
      (hindent : ∀ negative, entries.get? (.str "indent") ≠ some (.float (.infinite negative)))
      (h : entries.get? (.str "directory") = some setting) (hno : NoDirectory setting error) :
      Escapes entries error

/-- Why a configuration cannot be used, beside the name of the format. -/
def Config.Escapes (entries : Entries Key Setting) (error : ConfigError) : Prop :=
  ∃ options, entries.get? (.str "output") = some (.map options) ∧
    OutputOptions.Escapes options error

namespace Command

/-- Why a command gets no configuration and does not report it. Overrides come first, then the
configuration file, and last what the overrides make of it. -/
inductive GlobalOptions.Escapes (disk : Disk) (globals : GlobalOptions) : Failure → Prop
  | override {before after : List String} {item : String} {entries : Entries Key Setting}
      {error : OverrideError} (hitems : globals.overrides = before ++ item :: after)
      (hbefore : Override.readAll before = .ok entries)
      (hitem : Override.Escapes entries item error) : Escapes disk globals (.override error)
  | scalar {overrides : Entries Key Setting} {path : Path} {text : String} {problem : Yaml.Problem}
      (hoverrides : Override.readAll globals.overrides = .ok overrides)
      (hpath : globals.config = some path) (hread : disk.read path = .ok text)
      (hyaml : Yaml.read text = .error problem) (hproblem : problem.Escapes) :
      Escapes disk globals (.scalar problem)
  | file {overrides entries : Entries Key Setting} {error : ConfigError}
      (hoverrides : Override.readAll globals.overrides = .ok overrides)
      (hentries : disk.HasEntries globals.config entries)
      (herror : Config.Escapes entries error) : Escapes disk globals (.config error)
  | overridden {overrides entries : Entries Key Setting} {base : Config} {error : ConfigError}
      (hoverrides : Override.readAll globals.overrides = .ok overrides)
      (hentries : disk.HasEntries globals.config entries)
      (hbase : Config.ofEntries entries = .ok base)
      (herror : Config.Escapes (Setting.merge base.toEntries overrides) error) :
      Escapes disk globals (.config error)

/-- Why a command fails without a report: it gets no configuration, its script has an infinite line
or column at which the reading stops, or the indent is too wide for what it has to write. A document
is written when the directories for it have been made, and what was stripped is made a text before
that. -/
inductive Escapes (disk : Disk) : Arguments → Failure → Prop
  | globals {arguments : Arguments} {failure : Failure}
      (h : arguments.globals.Escapes disk failure) : Escapes disk arguments failure
  | position {globals : GlobalOptions} {config : Config} {script : Path} {options : CompileOptions}
      {text : String} {tree : Json} (hconfig : disk.HasConfig globals config)
      (hread : disk.read script = .ok text) (htree : Json.read? text = .ok tree)
      (hplaces : tree.placesFinite = false)
      (hload : Program.load tree = .error .infinitePosition) :
      Escapes disk ⟨globals, .compile script options⟩ .infinitePosition
  | indent {globals : GlobalOptions} {config : Config} {script : Path} {options : CompileOptions}
      {program : Program} {document : Entries String Json} (hconfig : disk.HasConfig globals config)
      (hscript : disk.HasScript script program) (hcompile : program.compile = .ok document)
      (hformat : options.format.getD config.output.format = .json)
      (hwide : config.output.style.indentFits = false)
      (hplace : ∀ destination, options.output.or config.output.directory = some destination →
        ∃ target made, Run.exportPath disk script .json destination = .ok target ∧
          disk.makeDirectories target.parent = (.ok (), made)) :
      Escapes disk ⟨globals, .compile script options⟩ (.unwritable .wideIndent)
  | stripped {globals : GlobalOptions} {config : Config} {document : Path} {output : Option Path}
      {text : String} {v : Json} (hconfig : disk.HasConfig globals config)
      (hread : disk.read document = .ok text) (hvalue : Json.read? text = .ok v)
      (hwide : config.output.style.indentFits = false) (hpart : v.isText = false) :
      Escapes disk ⟨globals, .strip document output⟩ (.unwritable .wideIndent)

end Command

open Command (isReported)

/-! ### Overrides -/

namespace Override

end Override

/-! ### Configurations -/

namespace OutputOptions

section

variable {entries : Entries Key Setting} {error : ConfigError}

end

end OutputOptions

namespace Config

end Config

/-- What configures a command is read from a mapping. -/
theorem Disk.HasConfig.exists_ofEntries {disk : Disk} {globals : Command.GlobalOptions}
    {config : Config} (h : disk.HasConfig globals config) :
    ∃ entries, Config.ofEntries entries = .ok config := by
  obtain ⟨overrides, entries, base, -, -, hbase, hconfig⟩ := h
  rw [Config.override_map hbase] at hconfig
  exact ⟨_, hconfig⟩

/-! ### Scripts -/

namespace Load

end Load

/-! ### Outcomes -/

/-- The outcome is a failure that is not reported. -/
def Failure.Escapes {α : Type} (failure : Failure) (x : Except Failure α) : Prop :=
  x = .error failure ∧ isReported failure = false

namespace Failure.Escapes

variable {α β ε : Type} {failure : Failure} {disk : Disk}

end Failure.Escapes

/-! ### Commands -/

namespace Command

open Failure.Escapes

variable {globals : GlobalOptions} {disk : Disk} {failure : Failure}

/-- The options for compiling change two settings, and a configuration stays usable. -/
theorem CompileOptions.override_eq {entries : Entries Key Setting} {config : Config}
    (h : Config.ofEntries entries = .ok config) (options : CompileOptions) :
    config.override options.overrides =
      .ok { withLocations := !options.withoutLocations && config.withLocations
            output :=
              { config.output with format := options.format.getD config.output.format } } := by
  obtain ⟨withoutLocations, format, output⟩ := options
  have hlocations : Config.Layer [(.str "with_locations", .bool false)] :=
    ⟨by decide, by rintro _ ⟨⟩; rfl, nofun⟩
  have hformat (format : Format) :
      Config.Layer [(.str "output", .map [(.str "format", .str format.name)])] := by
    cases format <;> exact ⟨by decide, nofun, by rintro _ ⟨⟩; decide⟩
  have hboth (format : Format) : Config.Layer [(.str "with_locations", .bool false),
      (.str "output", .map [(.str "format", .str format.name)])] := by
    cases format <;> exact ⟨by decide, by rintro _ ⟨⟩; rfl, by rintro _ ⟨⟩; decide⟩
  cases withoutLocations with
  | false =>
      cases format with
      | none => rfl
      | some format =>
          refine (Config.override_eq_ok_iff h (hformat format)).mpr ?_
          cases format <;> rfl
  | true =>
      cases format with
      | none => exact (Config.override_eq_ok_iff h hlocations).mpr rfl
      | some format =>
          refine (Config.override_eq_ok_iff h (hboth format)).mpr ?_
          cases format <;> rfl

end Command

end PfaScript
