import Mathlib
import PfaScript.Disk.Snapshot
import PfaScript.Proofs.Agreement
import PfaScript.Proofs.Escaping

/-!
# Where documents go

A path leads to a directory if there are directories all the way (`Disk.Leads`). If no file is in
the way (`Disk.Free`) and the system takes the names (`Path.Nameable`), the directories on a path
can be made, and no others are (`Disk.Free.makeDirectories`).

**Theorem** (`Command.directory_gets_document`): the directory for documents that is configured gets
the document of a script, unless a directory has its name. This is so if the directory is there or
its name has no ending. Any other path is taken for that of a file.
-/

namespace PfaScript

/-! ### Paths and their parts -/

namespace Path

/-- Every path is a root with names added to it. -/
theorem induction_child {P : Path → Prop} (root : ∀ slashes, P ⟨slashes, []⟩)
    (child : ∀ path name, P path → P (path.child name)) (path : Path) : P path := by
  obtain ⟨slashes, parts⟩ := path
  induction parts using List.reverseRecOn with
  | nil => exact root slashes
  | append_singleton parts name ih => exact child _ name ih

@[simp] theorem parent_child (path : Path) (name : String) : (path.child name).parent = path := by
  simp [child, parent]

theorem leading_child (path : Path) (name : String) :
    (path.child name).leading = path.leading ++ [path.child name] := by
  unfold leading child
  rw [List.length_append, List.length_singleton, List.range_succ, List.map_append,
    List.map_singleton, List.take_of_length_le (by simp)]
  congr 1
  refine List.map_congr_left fun n hn => ?_
  rw [List.take_append_of_le_length (Nat.lt_succ_iff.mp (List.mem_range.mp hn))]

theorem mem_leading (path : Path) : path ∈ path.leading :=
  List.mem_map.mpr ⟨path.parts.length, List.self_mem_range_succ, by rw [List.take_length]⟩

/-- The system takes the path: no name has a null character, and neither a name nor the path is too
long. -/
def Nameable (path : Path) : Prop :=
  (∀ name ∈ path.parts, '\x00' ∉ name.toList ∧ name.utf8ByteSize ≤ 255) ∧ path.size ≤ 4096

instance (path : Path) : Decidable path.Nameable :=
  inferInstanceAs (Decidable (_ ∧ _))

theorem Nameable.refusal? {path : Path} (h : path.Nameable) : path.refusal? = none := by
  have hnull : (path.parts.any (·.toList.contains '\x00')) = false := by
    rw [List.any_eq_false]
    intro name hname
    simpa using (h.1 name hname).1
  rw [Path.refusal?, hnull, if_neg Bool.false_ne_true, if_neg (Nat.not_lt.mpr h.2)]

/-- What is in a path that the system takes is taken too. -/
theorem Nameable.of_child {path : Path} {name : String} (h : (path.child name).Nameable) :
    path.Nameable ∧ name.utf8ByteSize ≤ 255 := by
  obtain ⟨hnames, hsize⟩ := h
  have hless : path.size ≤ (path.child name).size := by
    simp [size, child, Nat.add_assoc]
  exact ⟨⟨fun other hother => hnames other (List.mem_append_left _ hother), hless.trans hsize⟩,
    (hnames name (List.mem_append_right _ (List.mem_singleton_self name))).2⟩

end Path

/-! ### Directories that paths lead to -/

namespace Disk

variable {disk : Disk} {path : Path} {location : Location} {name : String}

theorem follow_append (disk : Disk) (location : Location) (names others : List String) :
    disk.follow location (names ++ others) =
      disk.follow location names >>= fun found => disk.follow found others := by
  induction names generalizing location with
  | nil => rfl
  | cons name rest ih =>
      rw [List.cons_append, follow, follow, ih]
      split
      · split <;> rfl
      · split <;> rfl

theorem named_child (path : Path) (name : String) :
    named (path.child name) = if name = ".." then above (named path) else named path ++ [name] := by
  unfold named Path.child
  rw [List.foldl_append]
  rfl

/-- In the location that a path leads to, its last name is looked up. -/
theorem locate_child (disk : Disk) (hname : (path.child name).Nameable) :
    disk.locate (path.child name) = disk.locate path >>= fun found => disk.follow found [name] := by
  rw [locate, hname.refusal?, locate, hname.of_child.1.refusal?]
  exact follow_append disk _ path.parts [name]

/-- One name is looked up in a directory. -/
theorem follow_singleton (hshort : name.utf8ByteSize ≤ 255) (location : Location) :
    disk.follow location [name] =
      if disk.hasDirectory location then
        .ok (if name = ".." then above location else location ++ [name])
      else if (disk.file? location).isSome then .error .notADirectory
      else .error .notFound := by
  rw [follow, if_neg (Nat.not_lt.mpr hshort)]
  rfl

/-- A path leads to what it names, if it leads anywhere. -/
theorem named_eq_of_locate (h : disk.locate path = .ok location) : named path = location := by
  have hfollow (names : List String) (start : Location)
      (h : disk.follow start names = .ok location) :
      names.foldl (fun place name => if name = ".." then above place else place ++ [name]) start =
        location := by
    induction names generalizing start with
    | nil => exact Except.ok.inj h
    | cons name rest ih =>
        unfold follow at h
        split at h
        · split at h
          · cases h
          · exact ih _ h
        · split at h <;> cases h
  unfold locate at h
  split at h
  · cases h
  · exact hfollow _ _ h

/-- There are directories all the way, and at the end. -/
def Leads (disk : Disk) (path : Path) : Prop :=
  disk.locate path = .ok (named path) ∧ disk.hasDirectory (named path) = true

theorem locate_child_of_leads (hname : (path.child name).Nameable) (h : disk.Leads path) :
    disk.locate (path.child name) = .ok (named (path.child name)) := by
  rw [locate_child disk hname, h.1, ok_bind, named_child, follow_singleton hname.of_child.2,
    if_pos h.2]

theorem leads_of_locate_child (hname : (path.child name).Nameable)
    (h : disk.locate (path.child name) = .ok location) : disk.Leads path := by
  rw [locate_child disk hname] at h
  obtain ⟨found, hfound, h⟩ := bind_eq_ok_iff.mp h
  obtain rfl := named_eq_of_locate hfound
  refine ⟨hfound, ?_⟩
  rw [follow_singleton hname.of_child.2] at h
  split at h
  · assumption
  · split at h <;> cases h

theorem leads_root (disk : Disk) {slashes : String} (hname : Path.Nameable ⟨slashes, []⟩) :
    disk.Leads ⟨slashes, []⟩ := by
  refine ⟨?_, ?_⟩
  · rw [locate, hname.refusal?]
    rfl
  · change disk.hasDirectory (if slashes.isEmpty then [] else ["/"]) = true
    split <;> rfl

/-- If a path leads to a directory, all paths above it do. -/
theorem Leads.leading (h : disk.Leads path) (hname : path.Nameable) {place : Path}
    (hplace : place ∈ path.leading) : disk.hasDirectory (named place) = true := by
  induction path using Path.induction_child with
  | root slashes =>
      obtain rfl := List.mem_singleton.mp hplace
      exact h.2
  | child path name ih =>
      rw [Path.leading_child, List.mem_append, List.mem_singleton] at hplace
      rcases hplace with hplace | rfl
      · exact ih (leads_of_locate_child hname h.1) hname.of_child.1 hplace
      · exact h.2

/-- No file stands at a path, nor at a path above it. -/
def Free (disk : Disk) (path : Path) : Prop :=
  ∀ place ∈ path.leading, disk.file? (named place) = none

theorem free_child_iff :
    disk.Free (path.child name) ↔ disk.Free path ∧ disk.file? (named (path.child name)) = none := by
  unfold Free
  rw [Path.leading_child, List.forall_mem_append, List.forall_mem_singleton]

/-- Where no file is in the way, a path leads to what it names or to nothing. -/
theorem Free.locate (h : disk.Free path) (hname : path.Nameable) :
    disk.locate path = .ok (named path) ∨ disk.locate path = .error .notFound := by
  induction path using Path.induction_child with
  | root slashes => exact .inl (leads_root disk hname).1
  | child path name ih =>
      obtain ⟨hpath, -⟩ := free_child_iff.mp h
      rcases ih hpath hname.of_child.1 with hlocate | hlocate
      · by_cases hdirectory : disk.hasDirectory (named path) = true
        · exact .inl (locate_child_of_leads hname ⟨hlocate, hdirectory⟩)
        · rw [locate_child disk hname, hlocate, ok_bind, follow_singleton hname.of_child.2,
            if_neg hdirectory, hpath path path.mem_leading]
          exact .inr rfl
      · rw [locate_child disk hname, hlocate]
        exact .inr rfl

theorem Free.exists_isDirectory (h : disk.Free path) (hname : path.Nameable) :
    ∃ answer, disk.isDirectory path = .ok answer := by
  unfold isDirectory leadsTo
  rcases h.locate hname with hlocate | hlocate <;> rw [hlocate] <;> exact ⟨_, rfl⟩

/-! ### Making directories and writing into them -/

/-- Making a directory in one that is there makes this one and no other. -/
theorem makeDirectory_of_locate (hlocate : disk.locate path = .ok (named path))
    (hfile : disk.file? (named path) = none) :
    ∃ made, makeDirectory path disk = (.ok (), made) ∧ made.Leads path ∧ ∀ location,
      made.hasDirectory location = true ↔
        disk.hasDirectory location = true ∨ location = named path := by
  by_cases hdirectory : disk.hasDirectory (named path) = true
  · refine ⟨disk, by simp [makeDirectory, hlocate, hdirectory], ⟨hlocate, hdirectory⟩, ?_⟩
    intro location
    rw [iff_self_or]
    rintro rfl
    exact hdirectory
  · have hmake : makeDirectory path disk =
        (.ok (), { disk with directories := named path :: disk.directories }) := by
      simp [makeDirectory, hlocate, hdirectory, hfile]
    have hgrows := makeDirectory_grows path disk
    rw [hmake] at hgrows
    exact ⟨_, hmake, ⟨locate_of_locate hlocate fun _ => hgrows.directory,
      by simp [hasDirectory]⟩, fun location => by
      simp [hasDirectory, or_assoc, or_comm, or_left_comm]⟩

/-- Making a directory and those above it works if no file is in the way, and makes no others. -/
theorem Free.makeDirectories (h : disk.Free path) (hname : path.Nameable) :
    ∃ made, makeDirectories path disk = (.ok (), made) ∧ made.Leads path ∧ ∀ location,
      made.hasDirectory location = true ↔
        disk.hasDirectory location = true ∨ location ∈ path.leading.map named := by
  induction path using Path.induction_child with
  | root slashes =>
      obtain ⟨made, hmake, hleads, hmade⟩ :=
        makeDirectory_of_locate (leads_root disk hname).1 (h _ (Path.mem_leading _))
      exact ⟨made, hmake, hleads, fun location => by rw [hmade]; simp [Path.leading]⟩
  | child path name ih =>
      obtain ⟨hpath, hfile⟩ := free_child_iff.mp h
      have hlength : (path.child name).parts.length = path.parts.length + 1 := by simp [Path.child]
      rw [Disk.makeDirectories, hlength, makeDirectoriesUpTo, Path.leading_child, Path.parent_child]
      simp only [List.map_append, List.mem_append, List.map_singleton, List.mem_singleton]
      rcases h.locate hname with hlocate | hlocate
      · obtain ⟨made, hmake, hleads, hmade⟩ := makeDirectory_of_locate hlocate hfile
        refine ⟨made, by rw [hmake], hleads, fun location => ?_⟩
        have habove : location ∈ path.leading.map named → disk.hasDirectory location = true := by
          intro hmem
          obtain ⟨place, hplace, rfl⟩ := List.mem_map.mp hmem
          exact (leads_of_locate_child hname hlocate).leading hname.of_child.1 hplace
        rw [hmade]
        tauto
      · obtain ⟨above, habove, hleads, hthere⟩ := ih hpath hname.of_child.1
        have hsame : above.file? (named (path.child name)) = none := by
          rw [file?, (grows_of_makeDirectories habove).files]
          exact hfile
        obtain ⟨made, hmake, hlast, hmade⟩ :=
          makeDirectory_of_locate (locate_child_of_leads hname hleads) hsame
        refine ⟨made, ?_, hlast, fun location => by rw [hmade, hthere, or_assoc]⟩
        have hmissing : makeDirectory (path.child name) disk =
            (.error ⟨.notFound, path.child name⟩, disk) := by
          simp [makeDirectory, hlocate]
        rw [Disk.makeDirectories] at habove
        rw [hmissing]
        dsimp only
        rw [habove]
        exact hmake

/-- A file can be written into a directory that may be missing, unless a directory has its name. -/
theorem Free.write_child (h : disk.Free path) (hname : (path.child name).Nameable)
    (text : String) :
    ∃ made, Disk.makeDirectories path disk = (.ok (), made) ∧ made.Leads path ∧
      made.files = disk.files ∧
      if disk.hasDirectory (named (path.child name)) = true ∨
          named (path.child name) ∈ path.leading.map named then
        made.write (path.child name) text = .error ⟨.isADirectory, path.child name⟩
      else
        ∃ written, made.write (path.child name) text = .ok written ∧ written.Leads path ∧
          written.locate (path.child name) = .ok (named (path.child name)) ∧
          written.file? (named (path.child name)) = some text ∧
          named path ≠ named (path.child name) ∧ ∀ location, location ≠ named (path.child name) →
            written.file? location = disk.file? location := by
  obtain ⟨made, hmake, hleads, hmade⟩ := h.makeDirectories hname.of_child.1
  have hgrows := grows_of_makeDirectories hmake
  have hplace := locate_child_of_leads hname hleads
  refine ⟨made, hmake, hleads, hgrows.files, ?_⟩
  by_cases hblocked : made.hasDirectory (named (path.child name)) = true
  · rw [if_pos ((hmade _).mp hblocked)]
    simp [write, hplace, hblocked]
  · rw [if_neg fun h => hblocked ((hmade _).mpr h)]
    have hwrite : made.write (path.child name) text = .ok _ :=
      write_ok_iff.mpr ⟨_, hplace, Bool.eq_false_iff.mpr hblocked, rfl⟩
    obtain ⟨hlast, -, htext, hothers⟩ := hgrows.written hplace hwrite
    refine ⟨_, hwrite, ⟨locate_of_locate hleads.1 fun _ => id, hleads.2⟩, hlast, htext,
      fun hsame => ?_, hothers⟩
    exact hblocked (hsame ▸ hleads.2)

end Disk

namespace Command

/-- A document with short integers has a text, unless it is JSON and the indent does not fit. -/
theorem exists_render {document : Entries String Json} {format : Format} {style : Json.Style}
    (h : Json.Short (.obj document)) (hfits : format = .json → style.indentFits = true) :
    ∃ text, Document.render format style document = .ok text := by
  cases format with
  | json => exact h.exists_page (hfits rfl)
  | yaml => exact ⟨_, if_neg (by simp [h.hasLong])⟩

/-- **Documents go into the configured directory.** Let the script compile, and let the directory
for documents be there or have a name without ending, with no file in the way. Let the system take
the path of the document, and the indent fit if it is JSON. Then the directory is there afterwards,
and no file at its own path. The document stands in it under the name of the script with the ending
of the format, and all other files are as before; unless a directory has that name, from the
beginning or because the path to the directory leads through it. This is reported, and every file is
as before. -/
theorem directory_gets_document {disk : Disk} {globals : GlobalOptions} {config : Config}
    {script directory : Path} {program : Program} {document : Entries String Json}
    (behaviour : Hook.Behaviour) (options : CompileOptions)
    (hconfig : configure globals disk = .ok config)
    (hdirectory : config.output.directory = some directory) (houtput : options.output = none)
    (hscript : disk.HasScript script program) (hcompile : program.compile = .ok document)
    (hfree : disk.Free directory)
    (hkind : disk.isDirectory directory = .ok true ∨ directory.suffix = "")
    (hname : (directory.child
      s!"{script.stem}.{(options.format.getD config.output.format).name}").Nameable)
    (hfits : options.format.getD config.output.format = .json →
      config.output.style.indentFits = true) :
    let format := options.format.getD config.output.format
    let target := directory.child s!"{script.stem}.{format.name}"
    ∃ text finished session,
      Document.render format config.output.style
        (if !options.withoutLocations && config.withLocations then document
          else Json.stripFields document) = .ok text ∧
      run behaviour disk ⟨globals, .compile script options⟩ = (.ok finished, session) ∧
      session.disk.Leads directory ∧ session.disk.file? (Disk.named directory) = none ∧
      (∀ location, location ≠ Disk.named target →
        session.disk.file? location = disk.file? location) ∧
      if disk.hasDirectory (Disk.named target) = true ∨
          Disk.named target ∈ directory.leading.map Disk.named then
        finished = ⟨1, { stderr := diagnostic (.disk ⟨.isADirectory, target⟩) }⟩ ∧
          session.disk.files = disk.files
      else
        finished.status = 0 ∧ session.disk.locate target = .ok (Disk.named target) ∧
          session.disk.file? (Disk.named target) = some text := by
  intro format target
  have hfound : disk.HasConfig globals config := configure_ok_iff.mp hconfig
  obtain ⟨entries, hentries⟩ := hfound.exists_ofEntries
  have hchosen := options.override_eq hentries
  have hdocument : program.document (!options.withoutLocations && config.withLocations) = .ok _ :=
    Program.document_ok_iff.mpr ⟨document, hcompile, rfl⟩
  have hshort : Json.Short (.obj (if !options.withoutLocations && config.withLocations then document
      else Json.stripFields document)) := by
    split
    · exact hscript.short hcompile
    · exact (hscript.short hcompile).strip (hscript.keyed hcompile)
  obtain ⟨text, hrender⟩ := exists_render hshort hfits
  have hdestination : options.output.or config.output.directory = some directory := by
    rw [houtput]
    exact hdirectory
  have hpath : Run.exportPath disk script format directory = .ok target := by
    obtain ⟨answer, hanswer⟩ := hfree.exists_isDirectory hname.of_child.1
    rw [hanswer, Except.ok.injEq] at hkind
    unfold Run.exportPath
    rw [hanswer, ok_bind, if_pos (by simpa using hkind)]
    rfl
  have hnone : disk.file? (Disk.named directory) = none := hfree directory directory.mem_leading
  obtain ⟨made, hmake, hleads, hfiles, hwrite⟩ := hfree.write_child hname text
  rw [← Path.parent_child directory s!"{script.stem}.{format.name}"] at hmake
  by_cases hblocked : disk.hasDirectory (Disk.named target) = true ∨
      Disk.named target ∈ directory.leading.map Disk.named
  · rw [if_pos hblocked] at hwrite
    have hsame (location : Location) : made.file? location = disk.file? location := by
      rw [Disk.file?, hfiles]
      rfl
    obtain ⟨monitor, hrun⟩ := reports_compile_refused hfound hchosen hscript hdocument hdestination
      hpath hmake behaviour hrender hwrite
    refine ⟨text, _, _, hrender, hrun, hleads, (hsame _).trans hnone,
      fun location _ => hsame location, ?_⟩
    rw [if_pos hblocked]
    exact ⟨rfl, hfiles⟩
  · rw [if_neg hblocked] at hwrite
    obtain ⟨written, hwrite, hthere, hlast, htext, hne, hothers⟩ := hwrite
    obtain ⟨output, monitor, hrun⟩ := succeeds_compile_written hfound hchosen hscript hdocument
      hdestination hpath hmake behaviour hrender hwrite
    refine ⟨text, _, _, hrender, hrun, hthere, (hothers _ hne).trans hnone, hothers, ?_⟩
    rw [if_neg hblocked]
    exact ⟨rfl, hlast, htext⟩

/-! ### A directory whose name has an ending -/

/-- Options for documents to go to `out.d`. -/
def GlobalOptions.dotted : GlobalOptions := { overrides := ["output.directory='out.d'"] }

/-- The configuration for documents to go to `out.d`. -/
def dottedConfig : Config := { output := { directory := some ⟨"", ["out.d"]⟩ } }

theorem hasConfig_dotted (disk : Disk) : disk.HasConfig .dotted dottedConfig := by
  have hvalue : Setting.ofText "'out.d'" = .ok (.str "out.d") := by
    have hlower : Text.lower (String.ofList (Text.trim "'out.d'".toList)) = "'out.d'" := by decide
    have hparse : (Literal.parse? "'out.d'").map Literal.Expr.value =
        some (.ok (.str "out.d")) := by
      cbv
    rw [Setting.ofText, hlower, hparse]
    rfl
  have hoverrides : Override.readAll GlobalOptions.dotted.overrides =
      .ok [(.str "output", .map [(.str "directory", .str "out.d")])] := by
    change (Setting.ofText "'out.d'" >>= fun value =>
      .ok (Override.assign value [] ["output", "directory"])) >>= _ = _
    rw [hvalue]
    rfl
  exact ⟨_, [], {}, hoverrides, rfl, rfl, rfl⟩

/-- The disk of `Disk.halving` with the directory `out.d`, and one in it if it is crowded. -/
def dottedDisk (crowded : Bool) : Disk where
  files := Disk.halving.files
  directories := ["out.d"] :: if crowded then [["out.d", "script.json"]] else []

theorem hasScript_dotted (crowded : Bool) :
    (dottedDisk crowded).HasScript ⟨"", ["script.json"]⟩ .halving := by
  have hread : (dottedDisk crowded).read ⟨"", ["script.json"]⟩ =
      Disk.halving.read ⟨"", ["script.json"]⟩ := by
    cases crowded <;> rfl
  unfold Disk.HasScript
  rw [hread]
  exact Disk.hasScript_halving

theorem compile_halving : Program.halving.compile = .ok Program.halvingDocument := by cbv

/-- The directory `out.d` gets the document if it is there. -/
theorem directory_gets_document_dotted :
    configure .dotted (dottedDisk false) = .ok dottedConfig ∧
      (dottedDisk false).Free ⟨"", ["out.d"]⟩ ∧
      ∃ finished session,
        run (fun _ _ _ => {}) (dottedDisk false)
          ⟨.dotted, .compile ⟨"", ["script.json"]⟩ {}⟩ = (.ok finished, session) ∧
        finished.status = 0 ∧ ∃ text, (Json.obj Program.halvingDocument).page {} = .ok text ∧
          session.disk.file? ["out.d", "script.json"] = some text := by
  have hconfig : configure .dotted (dottedDisk false) = .ok dottedConfig :=
    configure_ok_iff.mpr (hasConfig_dotted _)
  have hfree : (dottedDisk false).Free ⟨"", ["out.d"]⟩ := by
    unfold Disk.Free
    decide
  have hname : Path.Nameable ⟨"", ["out.d", "script.json"]⟩ := by decide
  obtain ⟨text, finished, session, htext, hrun, -, -, -, hwritten⟩ :=
    directory_gets_document (fun _ _ _ => {}) {} hconfig rfl rfl (hasScript_dotted false)
      compile_halving hfree (.inl rfl) hname fun _ => rfl
  rw [if_neg (by decide)] at hwritten
  exact ⟨hconfig, hfree, finished, session, hrun, hwritten.1, text, htext, hwritten.2.2⟩

/-- The directory `out.d` does not always get the document: if it is missing, a file of this name is
written, and if there is a directory of the document's name in it, nothing is. -/
theorem directory_not_filled :
    ∃ arguments,
      Arguments.ofWords ["--set", "output.directory='out.d'", "translate", "script.json"] =
        .ok arguments ∧
      Disk.halving.Free ⟨"", ["out.d"]⟩ ∧ (dottedDisk true).Free ⟨"", ["out.d"]⟩ ∧
      ∀ behaviour,
        (∃ output written, Succeeds behaviour .halving arguments output written ∧
          (∃ text, (Json.obj Program.halvingDocument).page {} = .ok text ∧
            written.file? ["out.d"] = some text) ∧
          written.file? ["out.d", "script.json"] = none) ∧
        ∃ output session, run behaviour (dottedDisk true) arguments = (.ok ⟨1, output⟩, session) ∧
          session.disk.files = Disk.halving.files := by
  have hdocument : Program.halving.document true = .ok Program.halvingDocument :=
    Program.document_ok_iff.mpr ⟨_, compile_halving, rfl⟩
  have hsame : dottedConfig.override (CompileOptions.overrides {}) = .ok dottedConfig :=
    dottedConfig.override_nil
  let script : Path := ⟨"", ["script.json"]⟩
  let directory : Path := ⟨"", ["out.d"]⟩
  refine ⟨⟨.dotted, .compile script {}⟩, rfl, by unfold Disk.Free; decide,
    by unfold Disk.Free; decide, fun behaviour => ⟨?_, ?_⟩⟩
  · have hpath : Run.exportPath .halving script .json directory = .ok directory :=
      exportPath_eq_self (by decide) rfl
    obtain ⟨output, hwritten⟩ := succeeds_compile_written (hasConfig_dotted .halving) hsame
      Disk.hasScript_halving hdocument rfl hpath rfl behaviour rfl rfl
    exact ⟨output, _, hwritten, ⟨_, rfl, rfl⟩, rfl⟩
  · have hpath : Run.exportPath (dottedDisk true) script .json directory =
        .ok (directory.child "script.json") := by decide
    obtain ⟨monitor, hrun⟩ := reports_compile_refused (hasConfig_dotted (dottedDisk true)) hsame
      (hasScript_dotted true) hdocument rfl hpath rfl behaviour rfl rfl
    exact ⟨_, _, hrun, rfl⟩

end Command

end PfaScript
