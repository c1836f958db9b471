import Mathlib
import PfaScript.Proofs.Inherited
import PfaScript.Proofs.LocationSource
import PfaScript.Proofs.Planning
import PfaScript.Proofs.Rereading
import PfaScript.Proofs.RoundTrip
import PfaScript.Proofs.Writing

/-!
# Stripping what was written

A document can be had without location markers in two ways: it is written with them and the file is
stripped, or the script is compiled without locations. Both print the same text, under every
configuration of the layout (`Command.strip_written_eq_withoutLocations`).

The written file is read as the document, with its keys in the order in which they were written
(`Json.read?_page`). Documents have distinct keys (`Disk.HasScript.keyed`), so sorting them before
stripping makes no difference to the text (`Json.Keyed.page_strip_arrange`). The rest is what the
commands do: `Command.Succeeds` says what a command prints and which files it leaves.
-/

namespace PfaScript

/-! ### Texts of stripped documents -/

namespace Json

/-- Arranging before stripping makes no difference to the text. -/
theorem Keyed.page_strip_arrange {v : Json} (h : Keyed v) (style : Style) :
    (style.arrange v).strip.page style = v.strip.page style := by
  refine (h.arrange style).strip.page_eq_of_arrange h.strip ?_
  unfold Style.arrange
  split
  · rw [h.strip_sortKeys, h.strip.sortKeys_sortKeys]
  · rfl

/-- A value with short integers has a text if the indent fits. -/
theorem Short.exists_page {v : Json} {style : Style} (h : Short v) (hfits : style.indentFits) :
    ∃ text, v.page style = .ok text :=
  ⟨v.render style ++ "\n", by simp [page, hfits, h.hasLong]⟩

end Json

namespace Command

variable {behaviour : Hook.Behaviour} {disk left : Disk} {config : Config} {globals : GlobalOptions}
  {script target : Path} {arguments : Arguments} {output : Output} {failure : Failure}

/-! ### Commands that succeed, and commands that let a failure escape -/

/-- The command ends without a failure, prints `output` and leaves the files of `left`. -/
def Succeeds (behaviour : Hook.Behaviour) (disk : Disk) (arguments : Arguments) (output : Output)
    (left : Disk) : Prop :=
  ∃ monitor, run behaviour disk arguments = (.ok { status := 0, output }, { disk := left, monitor })

/-- The command lets a failure escape, prints nothing and leaves the files of `left`. -/
def Fails (behaviour : Hook.Behaviour) (disk : Disk) (arguments : Arguments) (failure : Failure)
    (left : Disk) : Prop :=
  ∃ monitor, run behaviour disk arguments = (.error failure, { disk := left, monitor })

theorem fails_of_performed (behaviour : Hook.Behaviour)
    (h : performed arguments disk = (.error failure, left))
    (hreported : isReported failure = false) :
    Fails behaviour disk arguments failure left := by
  obtain ⟨monitor, hrun⟩ := run_of_performed behaviour h
  exact ⟨monitor, hrun.trans (by rw [ended, if_neg (by simp [hreported])])⟩

section Compile

variable {program : Program} {document : Entries String Json} {options : CompileOptions}
  {chosen : Config} {destination : Path} {made : Disk} {text : String} {error : Json.WriteError}
  (hconfig : disk.HasConfig globals config)
  (hoverride : config.override options.overrides = .ok chosen)
  (hscript : disk.HasScript script program)
  (hdocument : program.document chosen.withLocations = .ok document)

include hconfig hoverride hscript hdocument

section Printed

variable (hdestination : options.output.or chosen.output.directory = none)

include hdestination

/-- The document is to be printed. -/
theorem plan_printed : ∃ notice, plan ⟨globals, .compile script options⟩ disk = .ok
    ⟨none, (Document.render chosen.output.format chosen.output.style document).mapError .unwritable,
      notice⟩ := by
  refine ⟨_, plan_compile_iff.mpr ⟨config, chosen, program, document, none, hconfig, hoverride,
    hscript, hdocument, ?_, rfl⟩⟩
  rw [hdestination]
  rfl

/-- A document that goes nowhere else is printed. -/
theorem succeeds_compile_printed (behaviour : Hook.Behaviour)
    (htext : Document.render chosen.output.format chosen.output.style document = .ok text) :
    Succeeds behaviour disk ⟨globals, .compile script options⟩ { stdout := text } disk := by
  obtain ⟨notice, hplan⟩ := plan_printed hconfig hoverride hscript hdocument hdestination
  rw [htext] at hplan
  exact run_of_performed behaviour
    (performed_ok_iff.mpr ⟨_, hplan, .inl ⟨⟨text, rfl, rfl, rfl⟩, rfl⟩⟩)

/-- A document without a text is not printed. -/
theorem fails_compile_printed (behaviour : Hook.Behaviour)
    (hreported : isReported (.unwritable error) = false)
    (htext : Document.render chosen.output.format chosen.output.style document = .error error) :
    Fails behaviour disk ⟨globals, .compile script options⟩ (.unwritable error) disk := by
  obtain ⟨notice, hplan⟩ := plan_printed hconfig hoverride hscript hdocument hdestination
  rw [htext] at hplan
  exact fails_of_performed behaviour
    (performed_error_iff.mpr (.inr ⟨_, hplan, .inl ⟨rfl, rfl, rfl⟩⟩)) hreported

end Printed

variable (hdestination : options.output.or chosen.output.directory = some destination)
  (hpath : Run.exportPath disk script chosen.output.format destination = .ok target)
  (hmake : disk.makeDirectories target.parent = (.ok (), made))

include hdestination hpath

/-- The document is to be put into a file. -/
theorem plan_written : ∃ notice, plan ⟨globals, .compile script options⟩ disk = .ok
    ⟨some target,
      (Document.render chosen.output.format chosen.output.style document).mapError .unwritable,
      notice⟩ := by
  refine ⟨_, plan_compile_iff.mpr ⟨config, chosen, program, document, some target, hconfig,
    hoverride, hscript, hdocument, ?_, rfl⟩⟩
  rw [hdestination, targetOf, hpath]
  rfl

include hmake

/-- A document that can be written is written, after the directories above it were made. -/
theorem succeeds_compile_written {written : Disk} (behaviour : Hook.Behaviour)
    (htext : Document.render chosen.output.format chosen.output.style document = .ok text)
    (hwrite : made.write target text = .ok written) :
    ∃ output, Succeeds behaviour disk ⟨globals, .compile script options⟩ output written := by
  obtain ⟨notice, hplan⟩ := plan_written hconfig hoverride hscript hdocument hdestination hpath
  rw [htext] at hplan
  exact ⟨_, run_of_performed behaviour (performed_ok_iff.mpr ⟨_, hplan, .inr ⟨target, rfl,
    Disk.put_ok_iff.mpr ⟨made, text, hmake, rfl, hwrite⟩, rfl⟩⟩)⟩

/-- A document that cannot be written is reported, and the directories above it stay. -/
theorem reports_compile_refused {error : DiskError} (behaviour : Hook.Behaviour)
    (htext : Document.render chosen.output.format chosen.output.style document = .ok text)
    (hwrite : made.write target text = .error error) :
    ∃ monitor, run behaviour disk ⟨globals, .compile script options⟩ =
      (.ok ⟨1, { stderr := diagnostic (.disk error) }⟩, ⟨made, monitor⟩) := by
  obtain ⟨notice, hplan⟩ := plan_written hconfig hoverride hscript hdocument hdestination hpath
  rw [htext] at hplan
  have hput : disk.put target (.ok text) = (.error (.disk error), made) := by
    simp [Disk.put, hmake, hwrite]
  exact run_of_performed behaviour
    (performed_error_iff.mpr (.inr ⟨_, hplan, .inr ⟨target, rfl, hput⟩⟩))

/-- A document without a text is not written. -/
theorem fails_compile_written (behaviour : Hook.Behaviour)
    (hreported : isReported (.unwritable error) = false)
    (htext : Document.render chosen.output.format chosen.output.style document = .error error) :
    Fails behaviour disk ⟨globals, .compile script options⟩ (.unwritable error) made := by
  obtain ⟨notice, hplan⟩ := plan_written hconfig hoverride hscript hdocument hdestination hpath
  rw [htext] at hplan
  have hput :
      disk.put target (.error (.unwritable error)) = (.error (.unwritable error), made) := by
    simp [Disk.put, hmake]
  exact fails_of_performed behaviour
    (performed_error_iff.mpr (.inr ⟨_, hplan, .inr ⟨target, rfl, hput⟩⟩)) hreported

end Compile

/-- What is stripped is printed. -/
theorem succeeds_strip_printed {content text : String} {v : Json} (behaviour : Hook.Behaviour)
    (hconfig : disk.HasConfig globals config) (hread : disk.read target = .ok content)
    (hvalue : Json.read? content = .ok v)
    (htext : v.strip.page config.output.style = .ok text) :
    Succeeds behaviour disk ⟨globals, .strip target none⟩ { stdout := text } disk :=
  run_of_performed behaviour (performed_ok_iff.mpr
    ⟨_, plan_strip_iff.mpr ⟨config, content, v, text, hconfig, hread, hvalue, htext, rfl⟩,
      .inl ⟨⟨text, rfl, rfl, rfl⟩, rfl⟩⟩)

/-! ### Agreement -/

/-- A path with an ending where no directory is gets the document itself. -/
theorem exportPath_eq_self {format : Format} (hsuffix : target.suffix ≠ "")
    (htarget : disk.isDirectory target = .ok false) :
    Run.exportPath disk script format target = .ok target := by
  unfold Run.exportPath
  rw [htarget, ok_bind, Bool.false_or, if_neg (by simpa using hsuffix)]
  rfl

/-- A document that is written with or without its markers differs in these only. -/
theorem written_strip {document : Entries String Json} (h : Json.Keyed (.obj document))
    (hshort : Json.Short (.obj document)) (hdoubles : (Json.obj document).DoublesReadBack)
    (withLocations : Bool) :
    let written := Json.obj (if withLocations then document else Json.stripFields document)
    written.Keyed ∧ written.Short ∧ written.DoublesReadBack ∧
      written.strip = (Json.obj document).strip := by
  cases withLocations with
  | true => exact ⟨h, hshort, hdoubles, rfl⟩
  | false =>
      exact ⟨h.strip, hshort.strip h, fun x hx => hdoubles x (Json.atoms_strip h _ hx),
        h.strip_strip⟩

/-- **Stripping a written document gives what compiling without locations prints.** Say that the
script compiles, that documents are JSON and go to no directory, and that the texts of the
document's numbers are read back as these numbers. Say that the document can be written to a file,
other than the configuration file. If the indent fits, then compiling writes it there, and stripping
the file prints the same text as compiling without locations: the text of the stripped document. If
it does not, there is no text, and both ways of compiling let that failure escape: nothing is
printed, and no more than the directories for the file is made. -/
theorem strip_written_eq_withoutLocations {program : Program} {document : Entries String Json}
    {made : Disk} {location : Location} (behaviour : Hook.Behaviour)
    (hconfig : configure globals disk = .ok config)
    (hformat : config.output.format = .json) (hdirectory : config.output.directory = none)
    (hscript : disk.HasScript script program) (hcompile : program.compile = .ok document)
    (hdoubles : (Json.obj document).DoublesReadBack) (hsuffix : target.suffix ≠ "")
    (hmake : disk.makeDirectories target.parent = (.ok (), made))
    (hplace : made.locate target = .ok location) (hfree : made.hasDirectory location = false)
    (hother : ∀ path, globals.config = some path → made.locate path ≠ .ok location) :
    let written : Arguments := ⟨globals, .compile script { output := some target }⟩
    let printed : Arguments := ⟨globals, .compile script { withoutLocations := true }⟩
    if config.output.style.indentFits then
      ∃ text output left, (Json.obj document).strip.page config.output.style = .ok text ∧
        Succeeds behaviour disk written output left ∧
        Succeeds behaviour left ⟨globals, .strip target none⟩ { stdout := text } left ∧
        Succeeds behaviour disk printed { stdout := text } disk
    else
      Fails behaviour disk written (.unwritable .wideIndent) made ∧
        Fails behaviour disk printed (.unwritable .wideIndent) disk := by
  intro written printed
  have hfound : disk.HasConfig globals config := configure_ok_iff.mp hconfig
  have hgrows := Disk.grows_of_makeDirectories hmake
  have hpath : Run.exportPath disk script config.output.format target = .ok target :=
    exportPath_eq_self hsuffix (hgrows.isDirectory_eq_false hplace hfree)
  have hdocument (withLocations : Bool) : program.document withLocations =
      .ok (if withLocations then document else Json.stripFields document) :=
    Program.document_ok_iff.mpr ⟨document, hcompile, rfl⟩
  have hsame : config.override (CompileOptions.overrides { output := some target }) = .ok config :=
    config.override_nil
  have hwithout : config.override (CompileOptions.overrides { withoutLocations := true }) =
      .ok { config with withLocations := false } :=
    Config.override_withoutLocations hdirectory
  have hrender (fields : Entries String Json) :
      Document.render config.output.format config.output.style fields =
        (Json.obj fields).page config.output.style := by
    rw [hformat]
    rfl
  split
  next hfits =>
    have hkeyed := hscript.keyed hcompile
    have hshort := hscript.short hcompile
    obtain ⟨hkeptKeys, hkeptShort, hback, hstrip⟩ :=
      written_strip hkeyed hshort hdoubles config.withLocations
    obtain ⟨text, htext⟩ := (hshort.strip hkeyed).exists_page hfits
    obtain ⟨content, hcontent⟩ := hkeptShort.exists_page hfits
    -- Compiling writes the file.
    obtain ⟨left, hwrite⟩ : ∃ left, made.write target content = .ok left :=
      ⟨_, Disk.write_ok_iff.mpr ⟨location, hplace, hfree, rfl⟩⟩
    obtain ⟨output, hcompiled⟩ := succeeds_compile_written hfound hsame hscript
      (hdocument config.withLocations) rfl hpath hmake behaviour ((hrender _).trans hcontent) hwrite
    -- The file is read as it was written, under the same configuration.
    have hread := Disk.read_of_write hwrite (Json.return_not_mem_page hkeptKeys hcontent)
    have hkept : left.HasConfig globals config := by
      refine hfound.of_read fun path hpath text htext => ?_
      refine Disk.read_of_write_other hwrite ?_ (hgrows.read htext)
      rw [hplace]
      exact hother path hpath
    have hstripped := succeeds_strip_printed behaviour hkept hread
      (Json.read?_page hkeptKeys hback hcontent)
      ((hkeptKeys.page_strip_arrange _).trans (hstrip ▸ htext))
    -- Turning the locations off strips the document before it is printed.
    exact ⟨text, output, left, htext, hcompiled, hstripped, succeeds_compile_printed hfound hwithout
      hscript (hdocument false) hdirectory behaviour ((hrender _).trans htext)⟩
  next hwide =>
    have herror (fields : Entries String Json) :
        Document.render config.output.format config.output.style fields = .error .wideIndent :=
      (hrender fields).trans (Json.page_wideIndent_iff.mpr ⟨by simpa using hwide, rfl⟩)
    exact ⟨fails_compile_written hfound hsame hscript (hdocument config.withLocations) rfl hpath
        hmake behaviour rfl (herror _),
      fails_compile_printed hfound hwithout hscript (hdocument false) hdirectory behaviour rfl
        (herror _)⟩

end Command

/-! ### A script with a number that is no integer -/

/-- One half, as a double. -/
def Double.half : Double := .finite false (2 ^ 52) (-53)

theorem Double.read?_half : Json.read? (Layout.json.text half) = .ok (.float half) := by
  have htext : Layout.json.text half = "0.5" := by decide +kernel
  rw [htext]
  rfl

/-- The doubles among atoms. -/
def Json.doubles (v : Json) : List Double :=
  v.atoms.filterMap fun
    | .float x => some x
    | _ => none

theorem Json.doublesReadBack_half {v : Json} (h : v.doubles = [.half]) : v.DoublesReadBack := by
  intro x hx
  have hmem : x ∈ v.doubles := List.mem_filterMap.mpr ⟨_, hx, rfl⟩
  rw [h, List.mem_singleton] at hmem
  rw [hmem]
  exact Double.read?_half

namespace Program

/-- `Program.countdown` with the step `i = i - 0.5`. -/
def halving : Program :=
  let place : Option Span := some ⟨5, 4, 5, 15⟩
  let name : Node := .identifier place "i"
  countdown (.assignment place "=" name
    (.binary place "-" name (.literal place none (.float .half) .null)))

/-- The document of `Program.halving`. -/
def halvingDocument : Entries String Json :=
  [("input", .str "int"), ("output", .str "int"),
    ("action", .arr [.obj [("@", .str "JS lines 4 to 5"), ("for", .obj [("i", .str "input")]),
      ("while", .str "i"),
      ("step", .obj [("i", .obj [("@", .str "JS lines 5 to 5"),
        ("-", .arr [.str "i", .float .half])])]),
      ("do", .arr [.obj [("@", .str "JS lines 5 to 5"), ("f", .arr [.str "i"])]])]])]

theorem keyed_encode_halving : halving.toNode.encode.Keyed := by
  simp [halving, countdown, toNode, Node.encode, Node.encodeAll, Node.encodeOption,
    Node.encodeDeclarators, Node.encodeTargets, Node.encodeInitials, Node.entries, Node.placeEntry,
    Node.regexEntry, Node.rawEntry, Span.encode, Json.isNull, Entries.keys, Json.keyed_obj_iff,
    Json.Keyed.null, Json.Keyed.bool, Json.Keyed.int, Json.Keyed.float, Json.Keyed.str]

end Program

/-- A disk with a script and an empty configuration file. -/
def Disk.halving : Disk where
  files := [(["script.json"], Program.halving.toNode.encode.render {} ++ "\n"),
    (["empty.yaml"], "")]
  directories := []

theorem Disk.hasScript_halving : halving.HasScript ⟨"", ["script.json"]⟩ .halving := by
  have hkeyed := Program.keyed_encode_halving
  have hdoubles : Program.halving.toNode.encode.DoublesReadBack := Json.doublesReadBack_half rfl
  have hpage : Program.halving.toNode.encode.page {} =
      .ok (Program.halving.toNode.encode.render {} ++ "\n") := rfl
  have hread : halving.read ⟨"", ["script.json"]⟩ =
      .ok (Program.halving.toNode.encode.render {} ++ "\n") :=
    read_ok_iff.mpr ⟨["script.json"], _, rfl, rfl, rfl, by
      rw [Text.unifyLines_eq_self (Json.return_not_mem_page hkeyed hpage), String.ofList_toList]⟩
  exact ⟨_, _, hread, Json.read?_page hkeyed hdoubles hpage, rfl⟩

namespace Command

/-- Options for sorted keys, beside the empty configuration file. -/
def GlobalOptions.sorted : GlobalOptions :=
  { config := some ⟨"", ["empty.yaml"]⟩, overrides := ["output.sort_keys=true"] }

theorem hasConfig_halving : Disk.halving.HasConfig .sorted { output := { sortKeys := true } } := by
  have hoverrides : Override.readAll GlobalOptions.sorted.overrides =
      .ok [(.str "output", .map [(.str "sort_keys", .bool true)])] := by
    change (Setting.ofText "true" >>= fun value =>
      .ok (Override.assign value [] ["output", "sort_keys"])) >>= _ = _
    rw [Setting.ofText_true]
    rfl
  have hread : Disk.halving.read ⟨"", ["empty.yaml"]⟩ = .ok "" :=
    Disk.read_ok_iff.mpr ⟨["empty.yaml"], "", rfl, rfl, rfl, rfl⟩
  refine ⟨_, [], {}, hoverrides, ⟨"", hread, .inl ⟨rfl, rfl⟩⟩, rfl, ?_⟩
  change (OutputOptions.ofEntries (OutputOptions.toEntries { sortKeys := true }) >>= fun output =>
    .ok ({ withLocations := true, output } : Config)) = _
  rw [OutputOptions.ofEntries_toEntries (by simp)]
  rfl

theorem strip_written_eq_withoutLocations_halving :
    let script : Path := ⟨"", ["script.json"]⟩
    let target : Path := ⟨"", ["out", "document.json"]⟩
    ∃ text output left,
      (Json.obj Program.halvingDocument).strip.page { sortKeys := true } = .ok text ∧
      Succeeds (fun _ _ _ => {}) .halving ⟨.sorted, .compile script { output := some target }⟩
        output left ∧
      Succeeds (fun _ _ _ => {}) left ⟨.sorted, .strip target none⟩ { stdout := text } left ∧
      Succeeds (fun _ _ _ => {}) .halving ⟨.sorted, .compile script { withoutLocations := true }⟩
        { stdout := text } .halving := by
  intro script target
  have hcompile : Program.halving.compile = .ok Program.halvingDocument := by cbv
  have hconfig : configure .sorted .halving = .ok { output := { sortKeys := true } } :=
    configure_ok_iff.mpr hasConfig_halving
  have hdoubles : (Json.obj Program.halvingDocument).DoublesReadBack :=
    Json.doublesReadBack_half rfl
  have hsuffix : target.suffix ≠ "" := by decide
  have hmake : Disk.halving.makeDirectories target.parent =
      (.ok (), { Disk.halving with directories := [["out"]] }) := rfl
  have hother : ∀ path, GlobalOptions.sorted.config = some path →
      Disk.locate { Disk.halving with directories := [["out"]] } path ≠
        .ok ["out", "document.json"] := by
    intro path hpath
    cases hpath
    decide
  have hagree := strip_written_eq_withoutLocations (fun _ _ _ => {}) hconfig rfl rfl
    Disk.hasScript_halving hcompile hdoubles hsuffix hmake rfl rfl hother
  exact (if_pos (show Json.Style.indentFits { sortKeys := true } = true from rfl)).mp hagree

end Command

end PfaScript
