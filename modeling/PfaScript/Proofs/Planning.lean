import PfaScript.Proofs.Configuring

/-!
# What a command is about to do

A command first reads its files and changes nothing. It then has a plan: a text that is to be
printed or put into a file, unless there is no such text. All that a command does is to make its
plan and to carry it out (`Command.does_perform`).
-/

namespace PfaScript

namespace Command

/-- What is left to do when a command has read its files. -/
structure Plan where
  /-- The file that the text goes to; without one it is printed. -/
  target : Option Path
  text : Except Failure String
  /-- What is said when the file has been written. -/
  notice : Path → String

/-- Prints the text, or puts it into its file. -/
def Plan.carryOut (plan : Plan) (disk : Disk) : Except Failure Output × Disk :=
  match plan.target with
  | none => (plan.text.map fun text => { stdout := text }, disk)
  | some path =>
    Run.andThen (Disk.put path plan.text) (fun _ disk => (.ok { stderr := plan.notice path }, disk))
      disk

/-- Where the document of a script goes, if it has a destination. -/
def targetOf (script : Path) (format : Format) (disk : Disk) :
    Option Path → Except Failure (Option Path)
  | none => .ok none
  | some destination => do
    return some (← (Run.exportPath disk script format destination).mapError .disk)

/-- The plan for the document of a script. -/
def planOf (options : OutputOptions) (report : Report) (place : Option Path) (disk : Disk) :
    Except Failure Plan := do
  return {
    target := ← targetOf report.source options.format disk place
    text := (Document.render options.format options.style report.document).mapError .unwritable
    notice := fun path => s!"[pfajs] {report.summary} -> {path.toText}\n" }

/-- The plan of a command. -/
def plan (arguments : Arguments) (disk : Disk) : Except Failure Plan := do
  let config ← configure arguments.globals disk
  match arguments.task with
  | .compile script options => do
    let chosen ← (config.override options.overrides).mapError .config
    let report ← disk.report chosen script
    planOf chosen.output report (options.output.or chosen.output.directory) disk
  | .strip document output => do
    let value ← disk.stripped document
    let text ← (value.page config.output.style).mapError .unwritable
    return {
      target := output
      text := .ok text
      notice := fun path => s!"[pfajs] stripped document written to {path.toText}\n" }

/-- What a command does to the files, and how it ends. -/
def performed (arguments : Arguments) : Disk → Except Failure Output × Disk :=
  Run.andThen (fun disk => (plan arguments disk, disk)) Plan.carryOut

end Command

namespace Run

open Command

/-- Reading files before a plan is made is part of making it. -/
theorem Does.plan {α : Type} {x : Run α} {f : Disk → Except Failure α} {k : α → Run Output}
    {g : α → Disk → Except Failure Plan} (hx : Does x fun disk => (f disk, disk))
    (hk : ∀ a, Does (k a) (andThen (fun disk => (g a disk, disk)) Plan.carryOut)) :
    Does (x >>= k)
      (andThen (fun disk => (f disk >>= fun a => g a disk, disk)) Plan.carryOut) :=
  (hx.bind hk).congr fun disk => by
    dsimp only [andThen]
    cases f disk <;> rfl

/-- A document is delivered as planned. -/
theorem does_deliver (behaviour : Hook.Behaviour) (options : OutputOptions) (report : Report)
    (place : Option Path) :
    Does (deliver behaviour options report place)
      (andThen (fun disk => (planOf options report place disk, disk)) Plan.carryOut) := by
  cases place with
  | none =>
      refine Does.congr (.find (.ofExcept _ _) fun text => .pure _) fun disk => ?_
      dsimp only [andThen, planOf, targetOf, Plan.carryOut, ok_bind, pure_eq_ok]
      cases Document.render options.format options.style report.document <;> rfl
  | some destination =>
      refine ((does_exportReport behaviour options report destination).bind fun exported =>
        .pure _).congr fun disk => ?_
      dsimp only [andThen, planOf, targetOf, Plan.carryOut]
      cases exportPath disk report.source options.format destination with
      | error error => rfl
      | ok path =>
          dsimp only [Except.mapError, ok_bind, pure_eq_ok]
          rcases Disk.put path _ disk with ⟨failure | ⟨⟩, left⟩ <;> rfl

end Run

namespace Command

open Run

/-- **A command makes its plan and carries it out.** -/
theorem does_perform (behaviour : Hook.Behaviour) (arguments : Arguments) :
    Does (perform behaviour arguments) (performed arguments) := by
  obtain ⟨globals, task⟩ := arguments
  refine Does.plan (.ask _) fun config => ?_
  cases task with
  | compile script options =>
      exact Does.plan (.ofExcept _ _) fun chosen =>
        Does.plan (does_compileFile behaviour chosen script) fun report =>
          does_deliver behaviour chosen.output report _
  | strip document output =>
      have hdeliver (text : String) : Does (deliverStripped text output)
          (andThen (fun disk => (.ok ⟨output, .ok text, fun path =>
            s!"[pfajs] stripped document written to {path.toText}\n"⟩, disk)) Plan.carryOut) := by
        cases output with
        | none => exact .pure _
        | some path => exact .bind (.put path _) fun _ => .pure _
      exact Does.plan (.ask _) fun value => Does.plan (.ofExcept _ _) hdeliver

/-- How a program ends after a command. -/
def ended : Except Failure Output → Except Failure Finished
  | .ok output => .ok { status := 0, output }
  | .error failure =>
    if isReported failure then .ok { status := 1, output := { stderr := diagnostic failure } }
    else .error failure

theorem run_of_performed {arguments : Arguments} {disk left : Disk}
    {outcome : Except Failure Output} (behaviour : Hook.Behaviour)
    (h : performed arguments disk = (outcome, left)) :
    ∃ monitor, run behaviour disk arguments = (ended outcome, ⟨left, monitor⟩) := by
  obtain ⟨monitor, hrun⟩ := does_perform behaviour arguments (start disk arguments)
  refine ⟨monitor, ?_⟩
  unfold run
  rw [hrun]
  dsimp only [start]
  rw [h]
  cases outcome with
  | ok output => rfl
  | error failure =>
      dsimp only [ended]
      split <;> rfl

section

variable {arguments : Arguments} {disk left : Disk} {output : Output} {failure : Failure}

/-- A command ends with an output exactly if it has a plan, and prints its text and leaves all files
as they are, or puts it into a file. -/
theorem performed_ok_iff :
    performed arguments disk = (.ok output, left) ↔
      ∃ made, plan arguments disk = .ok made ∧
        ((∃ text, made.target = none ∧ made.text = .ok text ∧ output = { stdout := text }) ∧
            left = disk ∨
          ∃ path, made.target = some path ∧ disk.put path made.text = (.ok (), left) ∧
            output = { stderr := made.notice path }) := by
  unfold performed
  simp only [andThen_eq_ok_iff, Prod.mk.injEq]
  constructor
  · rintro ⟨⟨_ | path, text, notice⟩, _, ⟨hplan, rfl⟩, h⟩
    · cases text <;> cases h
      exact ⟨_, hplan, .inl ⟨⟨_, rfl, rfl, rfl⟩, rfl⟩⟩
    · obtain ⟨⟨⟩, between, hput, heq⟩ := andThen_eq_ok_iff.mp h
      cases heq
      exact ⟨_, hplan, .inr ⟨path, rfl, hput, rfl⟩⟩
  · rintro ⟨⟨target, text, notice⟩, hplan, h⟩
    refine ⟨_, disk, ⟨hplan, rfl⟩, ?_⟩
    rcases h with ⟨⟨text, rfl, rfl, rfl⟩, rfl⟩ | ⟨path, rfl, hput, rfl⟩
    · rfl
    · exact andThen_eq_ok_iff.mpr ⟨(), left, hput, rfl⟩

/-- A command fails exactly if it has no plan, or has no text to print, or cannot put it into its
file. -/
theorem performed_error_iff :
    performed arguments disk = (.error failure, left) ↔
      plan arguments disk = .error failure ∧ left = disk ∨
      ∃ made, plan arguments disk = .ok made ∧
        (made.target = none ∧ made.text = .error failure ∧ left = disk ∨
          ∃ path, made.target = some path ∧ disk.put path made.text = (.error failure, left)) := by
  unfold performed
  simp only [andThen_eq_error_iff, Prod.mk.injEq, eq_comm (a := disk)]
  refine or_congr_right ?_
  constructor
  · rintro ⟨⟨_ | path, text, notice⟩, _, ⟨hplan, rfl⟩, h⟩
    · cases text <;> cases h
      exact ⟨_, hplan, .inl ⟨rfl, rfl, rfl⟩⟩
    · rcases andThen_eq_error_iff.mp h with hput | ⟨⟨⟩, between, -, heq⟩
      · exact ⟨_, hplan, .inr ⟨path, rfl, hput⟩⟩
      · cases heq
  · rintro ⟨⟨target, text, notice⟩, hplan, h⟩
    refine ⟨_, disk, ⟨hplan, rfl⟩, ?_⟩
    rcases h with ⟨rfl, rfl, rfl⟩ | ⟨path, rfl, hput⟩
    · rfl
    · exact andThen_eq_error_iff.mpr (.inl hput)

end

section

variable {globals : GlobalOptions} {disk : Disk} {made : Plan}

/-- The plan for compiling a script: its document goes to its destination. -/
theorem plan_compile_iff {script : Path} {options : CompileOptions} :
    plan ⟨globals, .compile script options⟩ disk = .ok made ↔
      ∃ config chosen program document target, disk.HasConfig globals config ∧
        config.override options.overrides = .ok chosen ∧ disk.HasScript script program ∧
        program.document chosen.withLocations = .ok document ∧
        targetOf script chosen.output.format disk (options.output.or chosen.output.directory) =
          .ok target ∧
        made = {
          target
          text := (Document.render chosen.output.format chosen.output.style document).mapError
            .unwritable
          notice := fun path =>
            let report : Report :=
              { source := script, document, withLocations := chosen.withLocations }
            s!"[pfajs] {report.summary} -> {path.toText}\n" } := by
  unfold plan planOf
  simp only [bind_eq_ok_iff, configure_ok_iff, mapError_eq_ok_iff, Disk.report_ok_iff, pure_eq_ok,
    Except.ok.injEq]
  constructor
  · rintro ⟨config, hconfig, chosen, hchosen, _, ⟨program, document, hscript, hdocument, rfl⟩,
      target, htarget, rfl⟩
    exact ⟨config, chosen, program, document, target, hconfig, hchosen, hscript, hdocument, htarget,
      rfl⟩
  · rintro ⟨config, chosen, program, document, target, hconfig, hchosen, hscript, hdocument,
      htarget, rfl⟩
    exact ⟨config, hconfig, chosen, hchosen, _, ⟨program, document, hscript, hdocument, rfl⟩,
      target, htarget, rfl⟩

/-- The plan for stripping a document: it goes to the file that is named for it. -/
theorem plan_strip_iff {document : Path} {output : Option Path} :
    plan ⟨globals, .strip document output⟩ disk = .ok made ↔
      ∃ config content v text, disk.HasConfig globals config ∧ disk.read document = .ok content ∧
        Json.read? content = .ok v ∧ v.strip.page config.output.style = .ok text ∧
        made = {
          target := output
          text := .ok text
          notice := fun path => s!"[pfajs] stripped document written to {path.toText}\n" } := by
  unfold plan Disk.stripped
  simp only [bind_eq_ok_iff, configure_ok_iff, mapError_eq_ok_iff, Disk.text_ok_iff, pure_eq_ok,
    Except.ok.injEq]
  constructor
  · rintro ⟨config, hconfig, _, ⟨content, hread, v, hvalue, rfl⟩, text, htext, rfl⟩
    exact ⟨config, content, v, text, hconfig, hread, hvalue, htext, rfl⟩
  · rintro ⟨config, content, v, text, hconfig, hread, hvalue, htext, rfl⟩
    exact ⟨config, hconfig, _, ⟨content, hread, v, hvalue, rfl⟩, text, htext, rfl⟩

end

end Command

end PfaScript
