import PfaScript.Proofs.Planning
import PfaScript.Proofs.Rereading
import PfaScript.Proofs.Writing
import Mathlib.Logic.Basic

/-!
# A command leaves its whole document or nothing

A command that fails has printed nothing and changed no file, whether the failure is reported or
escapes; directories may have been made. A command that succeeds has either printed the whole text
that it was asked for and touched nothing, or printed nothing and written one file, which holds the
whole text (`Command.document_or_nothing`).

What a command does is to carry out its plan (`Command.does_perform`), and a plan that fails makes
directories at most. Which text a command is asked for is said by `Disk.HasText`.
-/

namespace PfaScript

/-! ### Texts are not empty -/

theorem Yaml.render_ne_empty (fields : Entries String Json) : Yaml.render fields ≠ "" := by
  unfold render
  cases fields with
  | nil => decide
  | cons field rest =>
      obtain ⟨key, v⟩ := field
      rw [if_neg (by simp), ← String.toList_inj.ne, String.toList_ofList]
      simp only [Printer.entries, Printer.keyText]
      split <;> simp

theorem Json.page_ne_empty {v : Json} {style : Json.Style} {text : String}
    (h : v.page style = .ok text) : text ≠ "" := by
  obtain ⟨-, -, htext⟩ := page_ok_iff.mp h
  rw [← String.toList_inj.ne, htext]
  simp

theorem Document.render_ne_empty {format : Format} {style : Json.Style}
    {document : Entries String Json} {text : String} (h : render format style document = .ok text) :
    text ≠ "" := by
  cases format with
  | json => exact Json.page_ne_empty h
  | yaml =>
      unfold render at h
      dsimp only at h
      split at h <;> cases h
      exact Yaml.render_ne_empty _

/-! ### What commands are asked for, and what they leave -/

/-- One file was written: the text stands at the location of some path, and all other files are as
before. -/
def Disk.Wrote (disk : Disk) (text : String) (after : Disk) : Prop :=
  ∃ path location, after.locate path = .ok location ∧ after.hasDirectory location = false ∧
    after.file? location = some text ∧
    ∀ other, other ≠ location → after.file? other = disk.file? other

section

variable {disk made after : Disk} {path : Path} {text : String}

/-- Writing a file after directories were made puts the text in its place and changes no other
file. -/
theorem Disk.Grows.written (h : Grows disk made) {location : Location}
    (hlocate : made.locate path = .ok location) (hwrite : made.write path text = .ok after) :
    after.locate path = .ok location ∧ after.hasDirectory location = false ∧
      after.file? location = some text ∧
      ∀ other, other ≠ location → after.file? other = disk.file? other := by
  obtain ⟨_, hfound, hfree, rfl⟩ := write_ok_iff.mp hwrite
  obtain rfl := Except.ok.inj (hlocate.symm.trans hfound)
  refine ⟨locate_of_locate hlocate fun _ => id, hfree, ?_, fun other hother => ?_⟩
  · rw [file?, Entries.get?_insert, if_pos (beq_self_eq_true location)]
  · rw [file?, Entries.get?_insert, if_neg (by simpa using hother.symm), h.files]
    rfl

theorem Disk.Grows.wrote (h : Grows disk made) (hwrite : made.write path text = .ok after) :
    disk.Wrote text after := by
  obtain ⟨location, hlocate, -⟩ := write_ok_iff.mp hwrite
  exact ⟨path, location, h.written hlocate hwrite⟩

end

/-- The text that a command is asked for: that of a script's document, or that of a document without
its markers. -/
inductive Disk.HasText (disk : Disk) : Command.Arguments → String → Prop
  | compile {globals : Command.GlobalOptions} {script : Path} {options : Command.CompileOptions}
      {config chosen : Config} {program : Program} {document : Entries String Json} {text : String}
      (hconfig : disk.HasConfig globals config)
      (hchosen : config.override options.overrides = .ok chosen)
      (hscript : disk.HasScript script program)
      (hdocument : program.document chosen.withLocations = .ok document)
      (htext : Document.render chosen.output.format chosen.output.style document = .ok text) :
      HasText disk ⟨globals, .compile script options⟩ text
  | strip {globals : Command.GlobalOptions} {path : Path} {output : Option Path} {config : Config}
      {content text : String} {v : Json} (hconfig : disk.HasConfig globals config)
      (hread : disk.read path = .ok content) (hvalue : Json.read? content = .ok v)
      (htext : v.strip.page config.output.style = .ok text) :
      HasText disk ⟨globals, .strip path output⟩ text

theorem Disk.HasText.ne_empty {disk : Disk} {arguments : Command.Arguments} {text : String}
    (h : disk.HasText arguments text) : text ≠ "" := by
  cases h with
  | compile _ _ _ _ htext => exact Document.render_ne_empty htext
  | strip _ _ _ htext => exact Json.page_ne_empty htext

namespace Command

variable {arguments : Arguments} {disk left : Disk}

/-- The text of a plan is what the command is asked for. -/
theorem hasText_of_plan {made : Plan} {text : String} (h : plan arguments disk = .ok made)
    (htext : made.text = .ok text) : disk.HasText arguments text := by
  obtain ⟨globals, task⟩ := arguments
  cases task with
  | compile script options =>
      obtain ⟨config, chosen, program, document, target, hconfig, hchosen, hscript, hdocument, -,
        rfl⟩ := plan_compile_iff.mp h
      exact .compile hconfig hchosen hscript hdocument (mapError_eq_ok_iff.mp htext)
  | strip document output =>
      obtain ⟨config, content, v, stripped, hconfig, hread, hvalue, hpage, rfl⟩ :=
        plan_strip_iff.mp h
      cases htext
      exact .strip hconfig hread hvalue hpage

/-- A command that succeeds prints its text or writes it to one file. -/
theorem text_of_performed {output : Output} (h : performed arguments disk = (.ok output, left)) :
    ∃ text, disk.HasText arguments text ∧
      (output.stdout = text ∧ left = disk ∨ output.stdout = "" ∧ disk.Wrote text left) := by
  obtain ⟨made, hplan, h⟩ := performed_ok_iff.mp h
  rcases h with ⟨⟨text, -, htext, rfl⟩, rfl⟩ | ⟨path, -, hput, rfl⟩
  · exact ⟨text, hasText_of_plan hplan htext, .inl ⟨rfl, rfl⟩⟩
  · obtain ⟨grown, text, hmake, htext, hwrite⟩ := Disk.put_ok_iff.mp hput
    exact ⟨text, hasText_of_plan hplan htext,
      .inr ⟨rfl, (Disk.grows_of_makeDirectories hmake).wrote hwrite⟩⟩

/-- A command that fails makes directories at most. -/
theorem grows_of_performed {failure : Failure}
    (h : performed arguments disk = (.error failure, left)) : Disk.Grows disk left := by
  rcases performed_error_iff.mp h with ⟨-, rfl⟩ | ⟨made, -, ⟨-, -, rfl⟩ | ⟨path, -, hput⟩⟩
  · exact .refl left
  · exact .refl left
  · exact Disk.grows_of_put_error hput

/-- What a command has printed when it ends; a failure that escapes prints nothing. -/
def printed : Except Failure Finished → String
  | .ok finished => finished.output.stdout
  | .error _ => ""

/-- **A command leaves its whole document or nothing.** If it ends with status zero, it has either
printed the whole text that it was asked for and left everything as it was, or printed nothing and
written one file, which holds the whole text. In every other case it has printed nothing, and every
file is as it was. -/
theorem document_or_nothing (behaviour : Hook.Behaviour) (disk : Disk) (arguments : Arguments) :
    match run behaviour disk arguments with
    | (.ok ⟨0, output⟩, session) =>
      ∃ text, disk.HasText arguments text ∧
        Xor (output.stdout = text ∧ session.disk = disk)
          (output.stdout = "" ∧ disk.Wrote text session.disk)
    | (outcome, session) => printed outcome = "" ∧ session.disk.files = disk.files := by
  rcases hdone : performed arguments disk with ⟨failure | output, left⟩ <;>
    obtain ⟨monitor, hrun⟩ := run_of_performed behaviour hdone <;> rw [hrun]
  · have hfiles : left.files = disk.files := (grows_of_performed hdone).files
    dsimp only [ended]
    by_cases hreported : isReported failure
    · rw [if_pos hreported]
      exact ⟨rfl, hfiles⟩
    · rw [if_neg hreported]
      exact ⟨rfl, hfiles⟩
  · obtain ⟨text, htext, houtcome⟩ := text_of_performed hdone
    have hne := htext.ne_empty
    refine ⟨text, htext, ?_⟩
    rcases houtcome with ⟨hprinted, hsame⟩ | ⟨hprinted, hwrote⟩
    · exact .inl ⟨⟨hprinted, hsame⟩, fun h => hne (hprinted.symm.trans h.1)⟩
    · exact .inr ⟨⟨hprinted, hwrote⟩, fun h => hne (h.1.symm.trans hprinted)⟩

end Command

end PfaScript
