import PfaScript.Proofs.Merging
import PfaScript.Proofs.Outcome
import PfaScript.Proofs.PathText
import PfaScript.Run.Config

/-!
# Layers of configuration

What a mapping says is read option by option, each from its own entry and with a default if there is
none, before it is known whether it makes a configuration (`Config.Reading`). A mapping is laid over
a reading by `Config.Reading.overlay`, which changes what the mapping mentions. Both ways of
layering are this one: a merged mapping reads as the second one laid over the reading of the first
(`Config.Reading.overlay_merge`), and the mapping that a configuration is written back as reads as
the configuration (`Config.Reading.overlay_toEntries`). So overriding a configuration time after
time is merging all mappings and reading the result once (`Config.layered_eq_merged`).
-/

namespace PfaScript

/-! ### Options -/

theorem Format.ofName?_name (format : Format) : ofName? format.name = some format := by
  cases format <;> rfl

theorem Format.name_inj {format other : Format} (h : format.name = other.name) :
    format = other := by
  have hread := congrArg ofName? h
  rw [ofName?_name, ofName?_name] at hread
  exact Option.some.inj hread

/-- Only the name of a format is its name. -/
theorem Format.name_of_ofName? {name : String} {format : Format} (h : ofName? name = some format) :
    format.name = name := by
  unfold ofName? at h
  split at h <;> cases h <;> rfl

theorem Format.lower_name (format : Format) : Text.lower format.name = format.name := by
  cases format <;> decide

namespace OutputOptions

/-- An indentation is read back from its setting. -/
theorem indentOf_elim (indent : Option Int) : indentOf (indent.elim .null .int) = .ok indent := by
  cases indent <;> rfl

/-- A directory is read as a plain path. -/
theorem plain_of_directoryOf {setting : Setting} {path : Path}
    (h : directoryOf setting = .ok (some path)) : path.Plain := by
  unfold directoryOf at h
  split at h <;> cases h
  exact Path.plain_ofText _

/-- A plain directory is read back from its setting. -/
theorem directoryOf_elim {directory : Option Path} (h : ∀ path ∈ directory, path.Plain) :
    directoryOf (directory.elim .null fun path => .str path.toText) = .ok directory := by
  cases directory with
  | none => rfl
  | some path =>
      have hplain := h path rfl
      rw [Option.elim_some, directoryOf, hplain.ofText_toText]
      exact hplain.toText_ne_empty

/-- What a mapping says of each option, whether or not it can be used. -/
structure Reading where
  format : String := "json"
  indent : Except ConfigError (Option Int) := .ok (some 2)
  sortKeys : Bool := false
  directory : Except ConfigError (Option Path) := .ok none

namespace Reading

/-- The reading with a mapping laid over it: what the mapping does not mention stays. -/
def overlay (reading : Reading) (changes : Entries Key Setting) : Reading where
  format := (changes.get? (.str "format")).elim reading.format fun name => Text.lower name.text
  indent := (changes.get? (.str "indent")).elim reading.indent indentOf
  sortKeys := (changes.get? (.str "sort_keys")).elim reading.sortKeys Setting.truthy
  directory := (changes.get? (.str "directory")).elim reading.directory directoryOf

/-- The options that a reading makes. -/
def options (reading : Reading) : Except ConfigError OutputOptions := do
  let indent ← reading.indent
  let directory ← reading.directory
  (Format.ofName? reading.format).elim (.error (.unsupportedFormat reading.format)) fun format =>
    .ok { format, indent, sortKeys := reading.sortKeys, directory }

/-- The reading that makes given options. -/
def ofOptions (options : OutputOptions) : Reading where
  format := options.format.name
  indent := .ok options.indent
  sortKeys := options.sortKeys
  directory := .ok options.directory

theorem options_eq_ok_iff {reading : Reading} {options : OutputOptions} :
    reading.options = .ok options ↔ reading = ofOptions options := by
  constructor
  · intro h
    obtain ⟨indent, hindent, h⟩ := bind_eq_ok_iff.mp h
    obtain ⟨directory, hdirectory, h⟩ := bind_eq_ok_iff.mp h
    cases hname : Format.ofName? reading.format with
    | none =>
        rw [hname] at h
        cases h
    | some format =>
        rw [hname] at h
        cases h
        rw [ofOptions, Format.name_of_ofName? hname, ← hindent, ← hdirectory]
  · rintro rfl
    obtain ⟨format, indent, sortKeys, directory⟩ := options
    cases format <;> rfl

theorem ofOptions_inj {options other : OutputOptions} (h : ofOptions options = ofOptions other) :
    options = other := by
  have hother := options_eq_ok_iff.mpr h
  rw [options_eq_ok_iff.mpr rfl] at hother
  exact Except.ok.inj hother

/-- A mapping without mappings in it, merged into another one, is laid over what that one says. -/
theorem overlay_merge {changes : Entries Key Setting} (h : changes.Distinct)
    (hflat : ∀ entry ∈ changes, entry.2.isMap = false) (reading : Reading)
    (base : Entries Key Setting) :
    reading.overlay (Setting.merge base changes) = (reading.overlay base).overlay changes := by
  have helim {α : Type} (key : Key) (absent : α) (read : Setting → α) :
      ((Setting.merge base changes).get? key).elim absent read =
        (changes.get? key).elim ((base.get? key).elim absent read) read := by
    rw [Setting.get?_merge_of_flat h hflat]
    cases changes.get? key <;> rfl
  simp only [overlay, helim]

/-- Options with a plain directory are read back from their mapping, whatever lies under it. -/
theorem overlay_toEntries {options : OutputOptions} (h : ∀ path ∈ options.directory, path.Plain)
    (reading : Reading) : reading.overlay options.toEntries = ofOptions options := by
  have hformat : options.toEntries.get? (.str "format") = some (.str options.format.name) := rfl
  have hindent : options.toEntries.get? (.str "indent") =
      some (options.indent.elim .null .int) := rfl
  have hsort : options.toEntries.get? (.str "sort_keys") = some (.bool options.sortKeys) := rfl
  have hdirectory : options.toEntries.get? (.str "directory") =
      some (options.directory.elim .null fun path => .str path.toText) := rfl
  simp only [overlay, hformat, hindent, hsort, hdirectory, Option.elim_some, Setting.text,
    Format.lower_name, indentOf_elim, Setting.truthy, directoryOf_elim h, ofOptions]

/-- A directory that is read is plain. -/
def Plain (reading : Reading) : Prop :=
  ∀ path, reading.directory = .ok (some path) → path.Plain

theorem Plain.overlay {reading : Reading} (h : reading.Plain) (changes : Entries Key Setting) :
    (reading.overlay changes).Plain := by
  intro path hpath
  unfold Reading.overlay at hpath
  cases hfound : changes.get? (.str "directory") with
  | none =>
      rw [hfound] at hpath
      exact h path hpath
  | some setting =>
      rw [hfound] at hpath
      exact plain_of_directoryOf hpath

end Reading

/-- The options that a mapping gives are those that its reading makes. -/
theorem ofEntries_eq (entries : Entries Key Setting) :
    ofEntries entries = (Reading.overlay {} entries).options := by
  have hformat : (Reading.overlay {} entries).format =
      Text.lower ((entries.get? (.str "format")).getD (.str "json")).text := by
    unfold Reading.overlay
    cases entries.get? (.str "format") <;> rfl
  have hsort : (Reading.overlay {} entries).sortKeys =
      ((entries.get? (.str "sort_keys")).getD (.bool false)).truthy := by
    unfold Reading.overlay
    cases entries.get? (.str "sort_keys") <;> rfl
  have hdirectory : (Reading.overlay {} entries).directory =
      directoryOf ((entries.get? (.str "directory")).getD .null) := by
    unfold Reading.overlay
    cases entries.get? (.str "directory") <;> rfl
  unfold ofEntries Reading.options
  rw [hformat, hsort, hdirectory, Reading.overlay]
  cases entries.get? (.str "indent") <;>
    exact bind_congr fun _ => bind_congr fun _ => by cases Format.ofName? _ <;> rfl

/-- Options with a plain directory are read back from their mapping. -/
theorem ofEntries_toEntries {options : OutputOptions}
    (h : ∀ path ∈ options.directory, path.Plain) : ofEntries options.toEntries = .ok options := by
  rw [ofEntries_eq, Reading.options_eq_ok_iff, Reading.overlay_toEntries h]

/-- The options that a mapping does not mention are those of before. -/
structure SameExcept (options : OutputOptions) (changes : Entries Key Setting)
    (changed : OutputOptions) : Prop where
  format : changes.get? (.str "format") = none → changed.format = options.format
  indent : changes.get? (.str "indent") = none → changed.indent = options.indent
  sortKeys : changes.get? (.str "sort_keys") = none → changed.sortKeys = options.sortKeys
  directory : changes.get? (.str "directory") = none → changed.directory = options.directory

theorem sameExcept_of_overlay {options changed : OutputOptions} {changes : Entries Key Setting}
    (h : (Reading.ofOptions options).overlay changes = .ofOptions changed) :
    options.SameExcept changes changed := by
  constructor
  · intro hnone
    have hformat := congrArg Reading.format h
    rw [Reading.overlay, hnone] at hformat
    exact Format.name_inj hformat.symm
  · intro hnone
    have hindent := congrArg Reading.indent h
    rw [Reading.overlay, hnone] at hindent
    exact (Except.ok.inj hindent).symm
  · intro hnone
    have hsort := congrArg Reading.sortKeys h
    rw [Reading.overlay, hnone] at hsort
    exact hsort.symm
  · intro hnone
    have hdirectory := congrArg Reading.directory h
    rw [Reading.overlay, hnone] at hdirectory
    exact (Except.ok.inj hdirectory).symm

end OutputOptions

/-! ### Configurations -/

namespace Config

/-- What a mapping says of a configuration, whether or not it can be used. -/
structure Reading where
  locations : Bool := true
  output : OutputOptions.Reading := {}

namespace Reading

/-- The reading with a mapping laid over it: anything but a mapping resets the options. -/
def overlay (reading : Reading) (changes : Entries Key Setting) : Reading where
  locations := (changes.get? (.str "with_locations")).elim reading.locations Setting.truthy
  output :=
    match changes.get? (.str "output") with
    | none => reading.output
    | some (.map options) => reading.output.overlay options
    | some _ => {}

/-- The configuration that a reading makes. -/
def config (reading : Reading) : Except ConfigError Config := do
  return { withLocations := reading.locations, output := ← reading.output.options }

/-- The reading that makes a given configuration. -/
def ofConfig (config : Config) : Reading where
  locations := config.withLocations
  output := .ofOptions config.output

theorem config_eq_ok_iff {reading : Reading} {config : Config} :
    reading.config = .ok config ↔ reading = ofConfig config := by
  constructor
  · intro h
    obtain ⟨options, hoptions, h⟩ := bind_eq_ok_iff.mp h
    cases h
    rw [ofConfig, ← OutputOptions.Reading.options_eq_ok_iff.mp hoptions]
  · rintro rfl
    exact bind_eq_ok_iff.mpr ⟨config.output, OutputOptions.Reading.options_eq_ok_iff.mpr rfl, rfl⟩

end Reading

/-- A mapping in which neither the locations nor any option is given as a mapping. -/
structure Layer (changes : Entries Key Setting) : Prop where
  distinct : changes.Distinct
  locations : ∀ setting, changes.get? (.str "with_locations") = some setting → setting.isMap = false
  output : ∀ options, changes.get? (.str "output") = some (.map options) →
    Entries.Distinct options ∧ ∀ entry ∈ options, entry.2.isMap = false

namespace Reading

/-- A layer merged into a mapping is laid over what that one says. -/
theorem overlay_merge {changes : Entries Key Setting} (h : Layer changes)
    (base : Entries Key Setting) :
    overlay {} (Setting.merge base changes) = (overlay {} base).overlay changes := by
  unfold overlay
  rw [Setting.get?_merge h.distinct, Setting.get?_merge h.distinct]
  congr 1
  · cases hfound : changes.get? (.str "with_locations") with
    | none => rfl
    | some setting =>
        rw [Option.elim_some, Setting.replacement_eq_self (h.locations setting hfound)]
        rfl
  · cases hfound : changes.get? (.str "output") with
    | none => rfl
    | some setting =>
        rw [Option.elim_some]
        cases setting with
        | map options =>
            -- Where there is no mapping below, the defaults lie there in both readings.
            obtain ⟨hdistinct, hflat⟩ := h.output options hfound
            rcases base.get? (.str "output") with _ | old
            · rfl
            · cases old with
              | map inner => exact OutputOptions.Reading.overlay_merge hdistinct hflat {} inner
              | _ => rfl
        | _ => rfl

/-- A configuration with a plain directory is read back from its mapping. -/
theorem overlay_toEntries {config : Config} (h : ∀ path ∈ config.output.directory, path.Plain)
    (reading : Reading) : reading.overlay config.toEntries = ofConfig config :=
  congrArg (Reading.mk config.withLocations)
    (OutputOptions.Reading.overlay_toEntries h reading.output)

/-- Readings have a plain directory. -/
theorem plain_overlay {reading : Reading} (h : reading.output.Plain)
    (changes : Entries Key Setting) : (reading.overlay changes).output.Plain := by
  unfold overlay
  dsimp only
  split
  · exact h
  · exact h.overlay _
  · nofun

end Reading

/-- The settings that a mapping does not mention are those of before. -/
structure SameExcept (config : Config) (changes : Entries Key Setting) (changed : Config) :
    Prop where
  withLocations : changes.get? (.str "with_locations") = none →
    changed.withLocations = config.withLocations
  output : changes.get? (.str "output") = none → changed.output = config.output
  options : ∀ options, changes.get? (.str "output") = some (.map options) →
    config.output.SameExcept options changed.output

section

variable {entries : Entries Key Setting} {config : Config}

/-- The configuration that a mapping gives is the one that its reading makes. -/
theorem ofEntries_eq (entries : Entries Key Setting) :
    ofEntries entries = (Reading.overlay {} entries).config := by
  have hlocations : (Reading.overlay {} entries).locations =
      ((entries.get? (.str "with_locations")).getD (.bool true)).truthy := by
    unfold Reading.overlay
    cases entries.get? (.str "with_locations") <;> rfl
  have houtput : OutputOptions.ofSetting (entries.get? (.str "output")) =
      (Reading.overlay {} entries).output.options := by
    unfold Reading.overlay
    rcases entries.get? (.str "output") with _ | setting
    · rfl
    · cases setting with
      | map options => exact OutputOptions.ofEntries_eq options
      | _ => rfl
  rw [ofEntries, Reading.config, hlocations, houtput]

theorem ofEntries_eq_ok_iff :
    ofEntries entries = .ok config ↔ Reading.overlay {} entries = .ofConfig config := by
  rw [ofEntries_eq, Reading.config_eq_ok_iff]

/-- The mapping of a configuration that was read from a mapping says the same. -/
theorem overlay_toEntries_of_ok (h : ofEntries entries = .ok config) :
    Reading.overlay {} config.toEntries = Reading.overlay {} entries := by
  rw [ofEntries_eq_ok_iff] at h
  have hplain := Reading.plain_overlay (show ({} : Reading).output.Plain from nofun) entries
  rw [h] at hplain ⊢
  refine Reading.overlay_toEntries (fun path hpath => hplain path ?_) {}
  rw [← hpath]
  rfl

/-- A configuration that was read from a mapping is read back from its own mapping. -/
theorem ofEntries_toEntries (h : ofEntries entries = .ok config) :
    ofEntries config.toEntries = .ok config := by
  rw [ofEntries_eq, overlay_toEntries_of_ok h, ← ofEntries_eq, h]

/-- Overrides are merged into the mapping of the configuration, also if there are none. -/
theorem override_map (h : ofEntries entries = .ok config) (overrides : Entries Key Setting) :
    config.override (.map overrides) = ofEntries (Setting.merge config.toEntries overrides) := by
  cases overrides with
  | nil => exact (ofEntries_toEntries h).symm
  | cons first rest => rfl

/-- A layer may as well be merged into the mapping that the configuration was read from. -/
theorem override_eq (h : ofEntries entries = .ok config) {layer : Entries Key Setting}
    (hlayer : Layer layer) :
    config.override (.map layer) = ofEntries (Setting.merge entries layer) := by
  rw [override_map h, ofEntries_eq, ofEntries_eq, Reading.overlay_merge hlayer,
    Reading.overlay_merge hlayer, overlay_toEntries_of_ok h]

/-- A layer is laid over what the configuration says. -/
theorem override_eq_ok_iff (h : ofEntries entries = .ok config) {layer : Entries Key Setting}
    (hlayer : Layer layer) {changed : Config} :
    config.override (.map layer) = .ok changed ↔
      (Reading.ofConfig config).overlay layer = .ofConfig changed := by
  rw [override_eq h hlayer, ofEntries_eq_ok_iff, Reading.overlay_merge hlayer,
    ofEntries_eq_ok_iff.mp h]

/-- Overriding a configuration changes no setting that the layer does not mention. -/
theorem sameExcept_of_override (h : ofEntries entries = .ok config) {layer : Entries Key Setting}
    (hlayer : Layer layer) {changed : Config}
    (hchanged : config.override (.map layer) = .ok changed) : config.SameExcept layer changed := by
  rw [override_eq_ok_iff h hlayer] at hchanged
  have hlocations : (Reading.overlay (.ofConfig config) layer).locations = changed.withLocations :=
    congrArg Reading.locations hchanged
  have houtput : (Reading.overlay (.ofConfig config) layer).output = .ofOptions changed.output :=
    congrArg Reading.output hchanged
  unfold Reading.overlay at hlocations houtput
  constructor
  · intro hnone
    rw [hnone] at hlocations
    exact hlocations.symm
  · intro hnone
    rw [hnone] at houtput
    exact (OutputOptions.Reading.ofOptions_inj houtput).symm
  · intro options hsome
    rw [hsome] at houtput
    exact OutputOptions.sameExcept_of_overlay houtput

/-- What a run of overrides gives is read from all the mappings merged. -/
theorem ofEntries_foldl_merge {layers : List (Entries Key Setting)} {final : Config}
    (h : ofEntries entries = .ok config) (hlayers : ∀ layer ∈ layers, Layer layer)
    (hfinal : layers.foldlM (fun config layer => config.override (.map layer)) config = .ok final) :
    ofEntries (layers.foldl Setting.merge entries) = .ok final := by
  induction layers generalizing entries config with
  | nil =>
      cases hfinal
      exact h
  | cons layer rest ih =>
      rw [List.foldlM_cons] at hfinal
      obtain ⟨next, hnext, hrest⟩ := bind_eq_ok_iff.mp hfinal
      refine ih ?_ (fun other hother => hlayers other (List.mem_cons_of_mem _ hother)) hrest
      rw [← override_eq h (hlayers layer List.mem_cons_self), hnext]

end

/-- The configuration that a mapping gives with layers laid over it one after the other. -/
def layered (base : Entries Key Setting) (layers : List (Entries Key Setting)) :
    Except ConfigError Config := do
  layers.foldlM (fun config layer => config.override (.map layer)) (← ofEntries base)

section

variable {base : Entries Key Setting} {layers : List (Entries Key Setting)} {config : Config}

theorem ofEntries_of_layered (hlayers : ∀ layer ∈ layers, Layer layer)
    (h : layered base layers = .ok config) :
    ofEntries (layers.foldl Setting.merge base) = .ok config := by
  obtain ⟨first, hbase, hrest⟩ := bind_eq_ok_iff.mp h
  exact ofEntries_foldl_merge hbase hlayers hrest

/-- The last layer is laid over what the others give. -/
theorem layered_append (base : Entries Key Setting) (layers : List (Entries Key Setting))
    (last : Entries Key Setting) :
    layered base (layers ++ [last]) =
      layered base layers >>= fun config => config.override (.map last) := by
  unfold layered
  cases ofEntries base with
  | error error => rfl
  | ok first =>
      change List.foldlM _ _ _ = List.foldlM _ _ _ >>= _
      rw [List.foldlM_append]
      refine bind_congr fun config => ?_
      exact bind_pure _

/-- **Layers laid over a configuration one after the other are one merged configuration.** It is
read back from the mapping it is written as, and a further layer changes no setting that it does not
mention. -/
theorem layered_eq_merged (hlayers : ∀ layer ∈ layers, Layer layer) :
    ((∃ earlier, layered base layers.dropLast = .ok earlier) →
      layered base layers = ofEntries (layers.foldl Setting.merge base)) ∧
    ∀ config, layered base layers = .ok config →
      ofEntries config.toEntries = .ok config ∧
      ∀ changes changed, Layer changes → config.override (.map changes) = .ok changed →
        config.SameExcept changes changed := by
  refine ⟨?_, fun config hconfig => ?_⟩
  · -- All layers but the last are known to be usable; the last one may give an error on both sides.
    rintro ⟨earlier, hearlier⟩
    rcases layers.eq_nil_or_concat' with rfl | ⟨front, last, rfl⟩
    · unfold layered
      exact bind_pure _
    · rw [List.dropLast_concat] at hearlier
      have hfront := ofEntries_of_layered
        (fun layer hlayer => hlayers layer (List.mem_append_left _ hlayer)) hearlier
      rw [layered_append, hearlier, List.foldl_append]
      exact override_eq hfront (hlayers last List.mem_concat_self)
  · have hmerged := ofEntries_of_layered hlayers hconfig
    exact ⟨ofEntries_toEntries hmerged, fun changes changed hchanges =>
      sameExcept_of_override hmerged hchanges⟩

/-- Two layers over a configuration file, of which the first one also has an option that means
nothing, and a third layer that changes the indentation alone. -/
theorem layered_file_and_overrides :
    layered [(.str "output", .map [(.str "format", .str "YAML"), (.str "indent", .int 4)])]
      [[(.str "output", .map [(.str "indent", .null), (.str "colour", .int 3)])],
       [(.str "with_locations", .int 0),
        (.str "output", .map [(.str "directory", .str "/a//./b/")])]] =
    ofEntries
      [(.str "output", .map [(.str "format", .str "YAML"), (.str "indent", .null),
        (.str "colour", .int 3), (.str "directory", .str "/a//./b/")]),
       (.str "with_locations", .int 0)] ∧
    SameExcept ⟨false, ⟨.yaml, none, false, some ⟨"/", ["a", "b"]⟩⟩⟩
      [(.str "output", .map [(.str "indent", .int 8)])]
      ⟨false, ⟨.yaml, some 8, false, some ⟨"/", ["a", "b"]⟩⟩⟩ := by
  have hlayers : ∀ layer ∈
      [[(.str "output", .map [(.str "indent", .null), (.str "colour", .int 3)])],
       [(.str "with_locations", .int 0),
        (.str "output", .map [(.str "directory", .str "/a//./b/")])]], Layer layer := by
    rintro layer (_ | ⟨_, _ | ⟨_, ⟨⟩⟩⟩)
    · exact ⟨by decide, nofun, by rintro _ ⟨⟩; decide⟩
    · exact ⟨by decide, by rintro _ ⟨⟩; rfl, by rintro _ ⟨⟩; decide⟩
  obtain ⟨hmerged, hlater⟩ := @layered_eq_merged
    [(.str "output", .map [(.str "format", .str "YAML"), (.str "indent", .int 4)])] _ hlayers
  refine ⟨hmerged ⟨{ output := ⟨.yaml, none, false, none⟩ }, rfl⟩, (hlater _ rfl).2 _ _ ?_ rfl⟩
  exact ⟨by decide, nofun, by rintro _ ⟨⟩; decide⟩

end

end Config

end PfaScript
