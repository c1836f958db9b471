import PfaScript.Proofs.Entries
import PfaScript.Proofs.Running

/-!
# Reading after writing

What was written to a file can be read there, and every file elsewhere is read as before, also if
directories were made on the way. `Disk.Grows` says all that making directories can do.
-/

namespace PfaScript

/-- A text without carriage returns has unified line ends. -/
theorem Text.unifyLines_eq_self {cs : List Char} (h : '\r' ∉ cs) :
    unifyLines (· = '\r') cs = cs := by
  induction cs with
  | nil => rfl
  | cons c rest ih =>
      rw [List.mem_cons, not_or] at h
      rw [unifyLines, ih h.2, if_neg (by simpa using Ne.symm h.1)]
      rintro tail rfl
      exact absurd rfl h.1

namespace Disk

variable {disk grown written : Disk}

/-! ### Making directories -/

/-- The files are the same, there are perhaps more directories, and none where a file is. -/
structure Grows (disk grown : Disk) : Prop where
  files : grown.files = disk.files
  directory {location : Location} :
    disk.hasDirectory location = true → grown.hasDirectory location = true
  kept {location : Location} :
    disk.hasDirectory location = false → (disk.file? location).isSome = true →
      grown.hasDirectory location = false

theorem Grows.refl (disk : Disk) : Grows disk disk :=
  ⟨rfl, id, fun h _ => h⟩

theorem Grows.trans {further : Disk} (h : Grows disk grown) (h' : Grows grown further) :
    Grows disk further where
  files := h'.files.trans h.files
  directory hdirectory := h'.directory (h.directory hdirectory)
  kept hdirectory hfile := by
    refine h'.kept (h.kept hdirectory hfile) ?_
    rw [file?, h.files]
    exact hfile

theorem makeDirectory_grows (path : Path) (disk : Disk) :
    Grows disk (makeDirectory path disk).2 := by
  unfold makeDirectory
  cases hlocate : disk.locate path with
  | error cause => exact .refl disk
  | ok location =>
      dsimp only
      split
      · exact .refl disk
      split
      · exact .refl disk
      next hfile =>
        refine ⟨rfl, ?_, ?_⟩
        · intro other hother
          simp only [hasDirectory, Bool.or_eq_true] at hother ⊢
          rcases hother with hother | hother
          · exact .inl hother
          · right
            simpa using Or.inr (by simpa using hother)
        · intro other hother hthere
          have hne : other ≠ location := by
            rintro rfl
            exact hfile hthere
          simp only [hasDirectory, Bool.or_eq_false_iff] at hother ⊢
          exact ⟨hother.1, by simpa [hne] using hother.2⟩

theorem makeDirectoriesUpTo_grows (depth : Nat) (path : Path) (disk : Disk) :
    Grows disk (makeDirectoriesUpTo depth path disk).2 := by
  induction depth generalizing path disk with
  | zero => exact makeDirectory_grows path disk
  | succ depth ih =>
      have hfirst := makeDirectory_grows path disk
      rw [makeDirectoriesUpTo]
      split
      next first hmake =>
        rw [hmake] at hfirst
        have habove := hfirst.trans (ih path.parent first)
        split
        next second hparents =>
          rw [hparents] at habove
          exact habove.trans (makeDirectory_grows path second)
        next => exact habove
      next => exact hfirst

theorem grows_of_makeDirectories {path : Path} {result : Except DiskError Unit}
    (h : makeDirectories path disk = (result, grown)) : Grows disk grown := by
  have hgrows := makeDirectoriesUpTo_grows path.parts.length path disk
  rw [makeDirectories] at h
  rwa [h] at hgrows

/-- Where there are more directories a path leads to the same place, unless it led nowhere. -/
theorem locate_eq_or (path : Path) (h : ∀ location,
      disk.hasDirectory location = true → grown.hasDirectory location = true) :
    grown.locate path = disk.locate path ∨
      disk.locate path = .error .notFound ∨ disk.locate path = .error .notADirectory := by
  have hfollow (names : List String) (location : Location) :
      grown.follow location names = disk.follow location names ∨
        disk.follow location names = .error .notFound ∨
          disk.follow location names = .error .notADirectory := by
    induction names generalizing location with
    | nil => exact .inl rfl
    | cons name rest ih =>
        unfold Disk.follow
        by_cases hdirectory : disk.hasDirectory location = true
        · rw [if_pos hdirectory, if_pos (h location hdirectory)]
          split
          · exact .inl rfl
          · exact ih _
        · right
          rw [if_neg hdirectory]
          split
          · exact .inr rfl
          · exact .inl rfl
  unfold locate
  split
  · exact .inl rfl
  · exact hfollow _ _

theorem locate_of_locate {path : Path} {location : Location}
    (hlocate : disk.locate path = .ok location) (h : ∀ location,
      disk.hasDirectory location = true → grown.hasDirectory location = true) :
    grown.locate path = .ok location := by
  rcases locate_eq_or path h with heq | heq | heq
  · exact heq.trans hlocate
  all_goals
    rw [heq] at hlocate
    cases hlocate

/-! ### Files -/

/-- What can be read is what stands in a file at the path's location, with its line ends unified. -/
theorem read_ok_iff {path : Path} {text : String} :
    disk.read path = .ok text ↔
      ∃ location content, disk.locate path = .ok location ∧
        disk.hasDirectory location = false ∧ disk.file? location = some content ∧
        text = String.ofList (Text.unifyLines (· = '\r') content.toList) := by
  constructor
  · intro h
    unfold read at h
    split at h
    · cases h
    next location hlocate =>
      split at h
      · cases h
      next hdirectory =>
        split at h
        next content hfile =>
          cases h
          exact ⟨location, content, hlocate, Bool.eq_false_iff.mpr hdirectory, hfile, rfl⟩
        next => cases h
  · rintro ⟨location, content, hlocate, hdirectory, hfile, rfl⟩
    simp [read, hlocate, hdirectory, hfile]

/-- A file that can be read can be read after directories were made. -/
theorem Grows.read (h : Grows disk grown) {path : Path} {text : String}
    (hread : disk.read path = .ok text) : grown.read path = .ok text := by
  obtain ⟨location, content, hlocate, hdirectory, hfile, rfl⟩ := read_ok_iff.mp hread
  refine read_ok_iff.mpr ⟨location, content,
    locate_of_locate hlocate fun _ => h.directory, ?_, ?_, rfl⟩
  · exact h.kept hdirectory (by rw [hfile]; rfl)
  · rw [file?, h.files]
    exact hfile

/-- Where no directory is afterwards, none was before. -/
theorem Grows.isDirectory_eq_false (h : Grows disk grown) {path : Path} {location : Location}
    (hlocate : grown.locate path = .ok location) (hfree : grown.hasDirectory location = false) :
    disk.isDirectory path = .ok false := by
  unfold isDirectory leadsTo
  rcases locate_eq_or path (fun _ => h.directory) with heq | heq | heq
  · have hnone : disk.hasDirectory location = false := by
      apply Bool.eq_false_iff.mpr
      intro hdirectory
      rw [h.directory hdirectory] at hfree
      cases hfree
    rw [← heq, hlocate]
    exact congrArg Except.ok hnone
  all_goals rw [heq]

/-- A file is written at the location of its path, if no directory is there. -/
theorem write_ok_iff {path : Path} {text : String} :
    disk.write path text = .ok written ↔
      ∃ location, disk.locate path = .ok location ∧ disk.hasDirectory location = false ∧
        written = { disk with files := disk.files.insert location text } := by
  constructor
  · intro h
    unfold write at h
    split at h
    · cases h
    next location hlocate =>
      split at h
      · cases h
      next hdirectory =>
        cases h
        exact ⟨location, hlocate, Bool.eq_false_iff.mpr hdirectory, rfl⟩
  · rintro ⟨location, hlocate, hdirectory, rfl⟩
    simp [write, hlocate, hdirectory]

/-- What was written can be read. -/
theorem read_of_write {path : Path} {text : String} (h : disk.write path text = .ok written)
    (hlines : '\r' ∉ text.toList) : written.read path = .ok text := by
  obtain ⟨location, hlocate, hdirectory, rfl⟩ := write_ok_iff.mp h
  refine read_ok_iff.mpr ⟨location, text, locate_of_locate hlocate fun _ => id,
    hdirectory, ?_, ?_⟩
  · rw [file?, Entries.get?_insert, if_pos (beq_self_eq_true location)]
  · rw [Text.unifyLines_eq_self hlines, String.ofList_toList]

/-- Files at other locations are read as before. -/
theorem read_of_write_other {path other : Path} {text content : String}
    (h : disk.write path text = .ok written) (hother : disk.locate other ≠ disk.locate path)
    (hread : disk.read other = .ok content) : written.read other = .ok content := by
  obtain ⟨location, hlocate, -, rfl⟩ := write_ok_iff.mp h
  obtain ⟨place, stored, hplace, hdirectory, hfile, rfl⟩ := read_ok_iff.mp hread
  refine read_ok_iff.mpr ⟨place, stored, locate_of_locate hplace fun _ => id,
    hdirectory, ?_, rfl⟩
  have hne : location ≠ place := by
    rintro rfl
    exact hother (hplace.trans hlocate.symm)
  rw [file?, Entries.get?_insert, if_neg (by simpa using hne)]
  exact hfile

/-! ### Putting texts into files -/

variable {path : Path} {text : Except Failure String}

/-- A text is put into a file after the directories above it were made. -/
theorem put_ok_iff :
    disk.put path text = (.ok (), written) ↔
      ∃ made content, disk.makeDirectories path.parent = (.ok (), made) ∧ text = .ok content ∧
        made.write path content = .ok written := by
  unfold put
  rcases disk.makeDirectories path.parent with ⟨error | ⟨⟩, made⟩
  · simp
  · rcases text with failure | content
    · simp
    · cases hwrite : made.write path content <;> simp [hwrite]

/-- If nothing is put into a file, directories were made at most. -/
theorem grows_of_put_error {failure : Failure}
    (h : disk.put path text = (.error failure, written)) :
    Grows disk written := by
  unfold put at h
  rcases hmake : disk.makeDirectories path.parent with ⟨error | ⟨⟩, made⟩ <;> rw [hmake] at h
  · cases h
    exact grows_of_makeDirectories hmake
  · rcases text with error | content
    · cases h
      exact grows_of_makeDirectories hmake
    · dsimp only at h
      cases hwrite : made.write path content <;> rw [hwrite] at h <;> cases h
      exact grows_of_makeDirectories hmake

end Disk

end PfaScript
