import PfaScript.Command.Run
import PfaScript.Proofs.Layering
import PfaScript.Proofs.Running

/-!
# What configures a command

Options written as a mapping are read back as they were (`OutputOptions.ofEntries_toEntries`), so an
override changes what it names and nothing else. `Disk.HasConfig` says what configures a command:
the file that is named for it, if any, and the overrides. This is the configuration that the command
asks for (`Command.configure_ok_iff`).
-/

namespace PfaScript

/-! ### Overrides -/

theorem Setting.ofText_true : ofText "true" = .ok (.bool true) := by
  have hlower : Text.lower (String.ofList (Text.trim "true".toList)) = "true" := by decide
  rw [ofText, hlower]
  rfl

namespace Config

theorem override_nil (config : Config) : config.override (.map []) = .ok config := rfl

/-- Turning the locations off changes nothing else. -/
theorem override_withoutLocations {config : Config} (h : config.output.directory = none) :
    config.override (.map [(.str "with_locations", .bool false)]) =
      .ok { config with withLocations := false } := by
  change (OutputOptions.ofEntries config.output.toEntries >>= fun output =>
    .ok ({ withLocations := false, output } : Config)) = _
  rw [OutputOptions.ofEntries_toEntries (by simp [h])]
  rfl

end Config

/-! ### Configuration files -/

/-- The entries that a configuration file gives; there are none without a file. -/
def Disk.HasEntries (disk : Disk) : Option Path → Entries Key Setting → Prop
  | none, entries => entries = []
  | some path, entries => ∃ text, disk.read path = .ok text ∧
      (Yaml.read text = .ok .null ∧ entries = [] ∨ Yaml.read text = .ok (.map entries))

/-- What configures a command: a file, if one is named, and overrides. -/
def Disk.HasConfig (disk : Disk) (globals : Command.GlobalOptions) (config : Config) : Prop :=
  ∃ overrides entries base, Override.readAll globals.overrides = .ok overrides ∧
    disk.HasEntries globals.config entries ∧
    Config.ofEntries entries = .ok base ∧ base.override (.map overrides) = .ok config

/-- A text gives entries if it is a mapping with these, or null. -/
theorem Run.entriesOf_ok_iff {path : Path} {text : String} {entries : Entries Key Setting} :
    entriesOf path text = .ok entries ↔
      Yaml.read text = .ok .null ∧ entries = [] ∨ Yaml.read text = .ok (.map entries) := by
  unfold entriesOf
  rcases Yaml.read text with problem | setting
  · cases problem <;> simp
  · cases setting <;> simp [eq_comm]

/-- The entries that are asked for are what the configuration file gives. -/
theorem Disk.entries_ok_iff {disk : Disk} {path : Option Path} {entries : Entries Key Setting} :
    disk.entries path = .ok entries ↔ disk.HasEntries path entries := by
  cases path with
  | none => simp [Disk.entries, HasEntries, eq_comm]
  | some path =>
      simp only [Disk.entries, HasEntries, bind_eq_ok_iff, text_ok_iff, Run.entriesOf_ok_iff]

/-- The configuration that a command asks for is what configures it. -/
theorem Command.configure_ok_iff {globals : GlobalOptions} {disk : Disk} {config : Config} :
    configure globals disk = .ok config ↔ disk.HasConfig globals config := by
  unfold configure Disk.config Disk.HasConfig
  simp only [bind_eq_ok_iff, mapError_eq_ok_iff, Disk.entries_ok_iff, exists_and_left]

namespace Disk

variable {disk other : Disk} {globals : Command.GlobalOptions} {config : Config}

/-- Only the configuration file counts. -/
theorem HasConfig.of_read (h : disk.HasConfig globals config)
    (hread : ∀ path ∈ globals.config, ∀ text,
      disk.read path = .ok text → other.read path = .ok text) :
    other.HasConfig globals config := by
  obtain ⟨overrides, entries, base, hoverrides, hentries, hrest⟩ := h
  refine ⟨overrides, entries, base, hoverrides, ?_, hrest⟩
  cases hpath : globals.config with
  | none =>
      rw [hpath] at hentries
      exact hentries
  | some path =>
      rw [hpath] at hentries
      obtain ⟨text, htext, hyaml⟩ := hentries
      exact ⟨text, hread path hpath text htext, hyaml⟩

end Disk

end PfaScript
