import PfaScript.Run.Job
import PfaScript.Proofs.Outcome

/-!
# What a run does

A run reads and writes files, and is watched by a log and by hooks. `Run.Does x f` says that `x`
ends as `f` says and leaves the files that `f` says, whatever watches it: `f` takes the files at the
beginning to the outcome and the files at the end. Such a function is given for each step and each
job. A job that compiles a script gives its document and changes no file (`Run.does_compileFile`).
-/

namespace PfaScript

/-! ### What files give -/

/-- The file at a path holds a script. -/
def Disk.HasScript (disk : Disk) (path : Path) (program : Program) : Prop :=
  ∃ text tree, disk.read path = .ok text ∧ Json.read? text = .ok tree ∧
    Program.load tree = .ok program

theorem Disk.HasScript.unique {disk : Disk} {path : Path} {program other : Program}
    (h : disk.HasScript path program) (hother : disk.HasScript path other) : program = other := by
  obtain ⟨text, tree, htext, htree, hload⟩ := h
  obtain ⟨text', tree', htext', htree', hload'⟩ := hother
  cases htext.symm.trans htext'
  cases htree.symm.trans htree'
  cases hload.symm.trans hload'
  rfl

/-- A file that can be read is there. -/
theorem Disk.exists?_of_read {disk : Disk} {path : Path} {text : String}
    (h : disk.read path = .ok text) : disk.exists? path = .ok true := by
  unfold read at h
  unfold exists? leadsTo
  cases hlocate : disk.locate path with
  | error cause => simp [hlocate] at h
  | ok location =>
      simp only [hlocate] at h ⊢
      cases hfile : disk.file? location with
      | some found => simp [has, hfile]
      | none =>
          rw [hfile] at h
          split at h <;> cases h

/-- The text that is asked for is what can be read. -/
theorem Disk.text_ok_iff {disk : Disk} {role : FileRole} {path : Path} {text : String} :
    disk.text role path = .ok text ↔ disk.read path = .ok text := by
  unfold Disk.text
  constructor
  · intro h
    rcases hthere : disk.exists? path with error | _ | _ <;> rw [hthere] at h
    · cases h
    · cases h
    · cases hread : disk.read path <;> rw [hread] at h <;> cases h
      rfl
  · intro h
    rw [exists?_of_read h, h]
    rfl

/-- A text holds a script if it is read as a tree that one can be loaded from. -/
theorem Run.scriptOf_ok_iff {path : Path} {text : String} {program : Program} :
    scriptOf path text = .ok program ↔
      ∃ tree, Json.read? text = .ok tree ∧ Program.load tree = .ok program := by
  unfold scriptOf
  rcases Json.read? text with error | tree
  · dsimp only
    split <;> simp
  · rcases hload : Program.load tree with (cause | _) | loaded <;> simp [hload]

/-- The script that is asked for is what the file holds. -/
theorem Disk.script_ok_iff {disk : Disk} {path : Path} {program : Program} :
    disk.script path = .ok program ↔ disk.HasScript path program := by
  unfold script HasScript
  simp only [bind_eq_ok_iff, text_ok_iff, Run.scriptOf_ok_iff, exists_and_left]

/-- The report of the script in a file. -/
def Disk.report (disk : Disk) (config : Config) (path : Path) : Except Failure Report := do
  let program ← disk.script path
  let document ← (program.document config.withLocations).mapError .fault
  return { source := path, document, withLocations := config.withLocations }

/-- A report has the document of the script. -/
theorem Disk.report_ok_iff {disk : Disk} {config : Config} {path : Path} {report : Report} :
    disk.report config path = .ok report ↔
      ∃ program document, disk.HasScript path program ∧
        program.document config.withLocations = .ok document ∧
        report = { source := path, document, withLocations := config.withLocations } := by
  unfold Disk.report
  simp only [bind_eq_ok_iff, script_ok_iff, mapError_eq_ok_iff, pure_eq_ok, Except.ok.injEq,
    eq_comm (a := report), exists_and_left]

namespace Run

variable {α β ε : Type}

/-! ### Runs and what watches them -/

/-- The run ends with a result and leaves the files of `disk`. -/
def Gives (x : Run α) (session : Session) (a : α) (disk : Disk) : Prop :=
  ∃ monitor, x.run session = (.ok a, { disk, monitor })

/-- Whatever watches it, the run ends as `f` says and leaves the files that `f` says. -/
def Does (x : Run α) (f : Disk → Except Failure α × Disk) : Prop :=
  ∀ session, ∃ monitor,
    x.run session = ((f session.disk).1, { disk := (f session.disk).2, monitor })

/-- One function after another one, unless the first one fails. -/
def andThen (f : Disk → Except Failure α × Disk) (g : α → Disk → Except Failure β × Disk)
    (disk : Disk) : Except Failure β × Disk :=
  match f disk with
  | (.ok a, left) => g a left
  | (.error failure, left) => (.error failure, left)

section

variable {f : Disk → Except Failure α × Disk} {g : α → Disk → Except Failure β × Disk}
  {disk left : Disk} {failure : Failure}

theorem andThen_eq_ok_iff {b : β} :
    andThen f g disk = (.ok b, left) ↔
      ∃ a between, f disk = (.ok a, between) ∧ g a between = (.ok b, left) := by
  unfold andThen
  rcases f disk with ⟨failure | a, between⟩ <;> simp

theorem andThen_eq_error_iff :
    andThen f g disk = (.error failure, left) ↔
      f disk = (.error failure, left) ∨
        ∃ a between, f disk = (.ok a, between) ∧ g a between = (.error failure, left) := by
  unfold andThen
  rcases f disk with ⟨failure | a, between⟩ <;> simp
end

theorem stateBind_apply (x : StateM Session α) (f : α → StateM Session β) (session : Session) :
    (x >>= f) session = f (x session).1 (x session).2 := rfl

theorem run_bind (x : Run α) (f : α → Run β) (session : Session) :
    (x >>= f).run session =
      match x.run session with
      | (.ok a, after) => (f a).run after
      | (.error failure, after) => (.error failure, after) := by
  rw [ExceptT.run_bind, stateBind_apply]
  rcases x.run session with ⟨_ | _, _⟩ <;> rfl

theorem run_tryCatch (x : Run α) (handle : Failure → Run α) (session : Session) :
    (tryCatch x handle).run session =
      match x.run session with
      | (.ok a, after) => (.ok a, after)
      | (.error failure, after) => (handle failure).run after := by
  rw [ExceptT.run_tryCatch, stateBind_apply]
  rcases x.run session with ⟨_ | _, _⟩ <;> rfl

namespace Does

variable {x : Run α} {f : Disk → Except Failure α × Disk} {k : α → Run β}

theorem gives_iff (h : Does x f) {session : Session} {a : α} {disk : Disk} :
    x.Gives session a disk ↔ f session.disk = (.ok a, disk) := by
  obtain ⟨monitor, hrun⟩ := h session
  unfold Gives
  rw [hrun]
  rcases f session.disk with ⟨outcome, left⟩
  constructor
  · rintro ⟨_, heq⟩
    cases heq
    rfl
  · intro heq
    cases heq
    exact ⟨monitor, rfl⟩

/-- Two runs that do the same on the same files end in the same way and leave the same files. -/
theorem agree {y : Run α} (hx : Does x f) (hy : Does y f) {session other : Session}
    (hdisk : session.disk = other.disk) :
    (x.run session).1 = (y.run other).1 ∧ (x.run session).2.disk = (y.run other).2.disk := by
  obtain ⟨monitor, hx⟩ := hx session
  obtain ⟨monitor', hy⟩ := hy other
  rw [hx, hy, hdisk]
  exact ⟨rfl, rfl⟩

theorem congr {g : Disk → Except Failure α × Disk} (h : Does x f) (heq : ∀ disk, f disk = g disk) :
    Does x g := by
  rwa [← funext heq]

theorem pure (a : α) : Does (pure a) fun disk => (.ok a, disk) :=
  fun session => ⟨session.monitor, rfl⟩

theorem throw (failure : Failure) :
    Does (throw failure : Run α) fun disk => (.error failure, disk) :=
  fun session => ⟨session.monitor, rfl⟩

theorem ofExcept (toFailure : ε → Failure) (outcome : Except ε α) :
    Does (ofExcept toFailure outcome) fun disk => (outcome.mapError toFailure, disk) := by
  cases outcome with
  | ok a => exact pure a
  | error error => exact throw _

theorem ask (g : Disk → Except Failure α) : Does (ask g) fun disk => (g disk, disk) := by
  intro session
  change ∃ monitor, (Run.ofExcept id (g session.disk)).run session = (g session.disk, _)
  cases g session.disk <;> exact ⟨session.monitor, rfl⟩

theorem put (path : Path) (text : Except Failure String) :
    Does (put path text) (Disk.put path text) := by
  intro session
  unfold Run.put
  change ∃ monitor, (Run.ofExcept id (session.disk.put path text).1).run _ = _
  cases (session.disk.put path text).1 <;> exact ⟨session.monitor, rfl⟩

theorem bind {g : α → Disk → Except Failure β × Disk} (hx : Does x f) (hk : ∀ a, Does (k a) (g a)) :
    Does (x >>= k) (andThen f g) := by
  intro session
  obtain ⟨monitor, hrun⟩ := hx session
  rw [run_bind, hrun, andThen]
  rcases f session.disk with ⟨failure | a, left⟩
  · exact ⟨monitor, rfl⟩
  · exact hk a ⟨left, monitor⟩

/-- Two steps after another that change no file. -/
theorem find {g : Disk → Except Failure α} {g' : α → Disk → Except Failure β}
    (hx : Does x fun disk => (g disk, disk)) (hk : ∀ a, Does (k a) fun disk => (g' a disk, disk)) :
    Does (x >>= k) fun disk => (g disk >>= fun a => g' a disk, disk) :=
  (hx.bind hk).congr fun disk => by
    dsimp only [andThen]
    cases g disk <;> rfl

/-- A failure that is only passed on does not change what a run does. -/
theorem tryCatch {handle : Failure → Run α} (hx : Does x f)
    (hhandle : ∀ failure, Does (handle failure) fun disk => (.error failure, disk)) :
    Does (tryCatch x handle) f := by
  intro session
  obtain ⟨monitor, hrun⟩ := hx session
  rw [run_tryCatch, hrun]
  rcases f session.disk with ⟨failure | a, left⟩
  · exact hhandle failure ⟨left, monitor⟩
  · exact ⟨monitor, rfl⟩

end Does

/-! ### Steps that are only watched -/

/-- A step that never fails and changes no file. -/
def Watched (x : Run Unit) : Prop :=
  x.Does fun disk => (.ok (), disk)

theorem watched_record (level : Level) (logger message : String) :
    Watched (record level logger message) :=
  fun session => ⟨session.monitor.record level logger message, rfl⟩

theorem watched_notify (behaviour : Hook.Behaviour) (name : String)
    (payload : Entries Key Setting) : Watched (notify behaviour name payload) :=
  fun session => ⟨(session.monitor.notify behaviour ⟨name, payload⟩).2, rfl⟩

/-- After a step that is only watched, a run does what it would have done before. -/
theorem Watched.bind {x : Run Unit} (hx : Watched x) {k : Unit → Run α}
    {f : Disk → Except Failure α × Disk} (hk : Does (k ()) f) : Does (x >>= k) f :=
  Does.bind hx fun _ => hk

theorem Watched.forM {f : α → Run Unit} (h : ∀ a, Watched (f a)) (items : List α) :
    Watched (items.forM f) := by
  induction items with
  | nil => exact .pure ()
  | cons item rest ih => exact (h item).bind ih

/-! ### Jobs -/

/-- A script gives its document. -/
theorem does_compileScript (program : Program) (withLocations : Bool) :
    Does (compileScript program withLocations) fun disk =>
      ((program.document withLocations).mapError .fault, disk) := by
  refine (Watched.forM (fun _ => watched_record _ _ _) _).bind (Does.congr (.find (.ofExcept _ _)
    fun document => (watched_record _ _ _).bind (.pure document)) fun disk => ?_)
  cases program.document withLocations <;> rfl

/-- A file gives the document of its script. -/
theorem does_compileFile (behaviour : Hook.Behaviour) (config : Config) (path : Path) :
    Does (compileFile behaviour config path) fun disk => (disk.report config path, disk) := by
  have hcompile := Does.find (.ask (·.script path)) fun program =>
    does_compileScript program config.withLocations
  refine Does.congr (.find (hcompile.tryCatch fun failure => ?_) fun document =>
    (watched_record _ _ _).bind ((watched_notify _ _ _).bind (.pure _))) fun disk => ?_
  · cases failure with
    | fault fault => exact (watched_record _ _ _).bind ((watched_notify _ _ _).bind (.throw _))
    | _ => exact .throw _
  · simp only [Disk.report, bind_assoc]
    rfl

/-- A document is put into the file that its destination leads to. -/
theorem does_exportReport (behaviour : Hook.Behaviour) (options : OutputOptions) (report : Report)
    (destination : Path) :
    Does (exportReport behaviour options report destination)
      (andThen (fun disk =>
          ((exportPath disk report.source options.format destination).mapError .disk, disk))
        fun path => andThen
          (Disk.put path
            ((Document.render options.format options.style report.document).mapError .unwritable))
          fun _ disk => (.ok { path, format := options.format }, disk)) :=
  .bind (.ask _) fun path => .bind (.put path _) fun _ => (watched_notify _ _ _).bind (.pure _)

theorem compileFile_gives_iff {behaviour : Hook.Behaviour} {config : Config} {path : Path}
    {session : Session} {report : Report} {disk : Disk} :
    (compileFile behaviour config path).Gives session report disk ↔
      (∃ program document, session.disk.HasScript path program ∧
        program.document config.withLocations = .ok document ∧
        report = { source := path, document, withLocations := config.withLocations }) ∧
      disk = session.disk := by
  rw [(does_compileFile behaviour config path).gives_iff, Prod.mk.injEq, Disk.report_ok_iff,
    eq_comm (a := session.disk)]

end Run

end PfaScript
