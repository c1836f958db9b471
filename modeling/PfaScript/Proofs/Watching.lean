import PfaScript.Proofs.Dispatching
import PfaScript.Proofs.Running

/-!
# What watches a run does not take part in it

Hooks and a log watch a run. Whatever the hooks do, a job has the same outcome and leaves the same
files as without them, and the hooks are told exactly what came of it: one event for a document, one
event for a fault, and none for any other failure (`Run.watched_only`).

That the outcome is the same is part of what a run does (`Run.Does.agree`). Until a hook is told of
it, compiling changes nothing but the log (`Run.Logs`). What telling an event does to the calls is
`Monitor.calls_notify`.
-/

namespace PfaScript

/-! ### Telling events -/

namespace Monitor

/-- Tells events one after the other. -/
def tell (behaviour : Hook.Behaviour) (monitor : Monitor) (events : List Hook.Event) : Monitor :=
  events.foldl (fun monitor event => (monitor.notify behaviour event).2) monitor

end Monitor

/-- The session without any registered hook. -/
def Session.unwatched (session : Session) : Session :=
  { session with monitor := { session.monitor with registry := [] } }

namespace Run

variable {α β ε : Type}

/-! ### Logging -/

/-- Whatever comes of it, the run changes nothing but the log. -/
def Logs (x : Run α) : Prop :=
  ∀ session, ∃ log, (x.run session).2 = { session with monitor := { session.monitor with log } }

namespace Logs

theorem pure (a : α) : Logs (pure a) :=
  fun session => ⟨session.monitor.log, rfl⟩

theorem ofExcept (failure : ε → Failure) (outcome : Except ε α) :
    Logs (ofExcept failure outcome) := by
  cases outcome <;> exact fun session => ⟨session.monitor.log, rfl⟩

theorem ask (f : Disk → Except Failure α) : Logs (ask f) :=
  fun session => ofExcept id (f session.disk) session

theorem record (level : Level) (logger message : String) : Logs (record level logger message) :=
  fun session => ⟨session.monitor.log.add level logger message, rfl⟩

theorem bind {x : Run α} {f : α → Run β} (hx : Logs x) (hf : ∀ a, Logs (f a)) :
    Logs (x >>= f) := by
  intro session
  obtain ⟨log, hfirst⟩ := hx session
  rw [run_bind]
  rcases hrun : x.run session with ⟨failure | a, between⟩ <;> rw [hrun] at hfirst <;>
    cases hfirst
  · exact ⟨log, rfl⟩
  · exact hf a _

theorem forM {f : α → Run Unit} (h : ∀ a, Logs (f a)) (items : List α) : Logs (items.forM f) := by
  induction items with
  | nil => exact pure ()
  | cons item rest ih => exact bind (h item) fun _ => ih

/-- Compiling a script changes the log only. -/
theorem compileScript (program : Program) (withLocations : Bool) :
    Logs (compileScript program withLocations) :=
  .bind (.forM (fun _ => .record _ _ _) _) fun _ =>
    .bind (.ofExcept _ _) fun document => .bind (.record _ _ _) fun _ => .pure document

end Logs

/-! ### What hooks are told -/

/-- What is to be told of the outcome of compiling the script at a path: one event for a document,
one for a fault, and none for any other failure. -/
def announcements (path : Path) (withLocations : Bool) : Except Failure Report → List Hook.Event
  | .ok report =>
    [{ name := "translator.run.completed"
       payload := [(.str "source", .str path.toText),
         (.str "fields", .list (report.document.keys.map .str)),
         (.str "with_locations", .bool withLocations)] }]
  | .error (.fault fault) =>
    [{ name := "translator.run.failed"
       payload := [(.str "source", .str path.toText),
         (.str "kind", .str fault.cause.kind.name),
         (.str "message", .str fault.cause.message),
         (.str "location", fault.location.elim .null .str)] }]
  | .error _ => []

theorem announcements_cases (path : Path) (withLocations : Bool) (outcome : Except Failure Report) :
    announcements path withLocations outcome = [] ∨
      ∃ event, announcements path withLocations outcome = [event] := by
  rcases outcome with failure | report
  · cases failure with
    | fault fault => exact .inr ⟨_, rfl⟩
    | _ => exact .inl rfl
  · exact .inr ⟨_, rfl⟩

/-- Compiling a file tells its announcements, after everything else that it does. -/
theorem monitor_compileFile (behaviour : Hook.Behaviour) (config : Config) (path : Path)
    (session : Session) :
    let ended := (compileFile behaviour config path).run session
    ∃ log, ended.2.monitor = ({ session.monitor with log } : Monitor).tell behaviour
      (announcements path config.withLocations ended.1) := by
  have hlogs : Logs (ask (·.script path) >>= fun program =>
      compileScript program config.withLocations) :=
    .bind (.ask _) fun program => .compileScript program _
  obtain ⟨log, hlog⟩ := hlogs session
  unfold compileFile
  rw [run_bind, run_tryCatch]
  rcases hrun : (ask (·.script path) >>= fun program =>
    compileScript program config.withLocations).run session with ⟨failure | document, between⟩ <;>
    rw [hrun] at hlog <;> cases hlog
  · cases failure with
    | fault fault =>
        exact ⟨log.add .warning "pfajs.runner"
          s!"translation of {path.toText} failed: {fault.text}", rfl⟩
    | _ => exact ⟨log, rfl⟩
  · let report : Report := { source := path, document, withLocations := config.withLocations }
    exact ⟨log.add .info "pfajs.runner" s!"translated {report.summary}", rfl⟩

/-- **What watches a run does not take part in it, and is told what came of it.** Whatever the hooks
do, a script's report or failure is the one without hooks, a document is written to the same place
with the same text, and compiling a file tells the hooks its announcements and nothing else. -/
theorem watched_only (behaviour : Hook.Behaviour) (session : Session) (config : Config)
    (path : Path) :
    let compiled := (compileFile behaviour config path).run session
    let alone := (compileFile behaviour config path).run session.unwatched
    let told := announcements path config.withLocations compiled.1
    (compiled.1 = alone.1 ∧ compiled.2.disk = alone.2.disk) ∧
    (∀ options report destination,
      let exported := (exportReport behaviour options report destination).run session
      let alone := (exportReport behaviour options report destination).run session.unwatched
      exported.1 = alone.1 ∧ exported.2.disk = alone.2.disk) ∧
    (∃ log, compiled.2.monitor = ({ session.monitor with log } : Monitor).tell behaviour told) ∧
    compiled.2.monitor.calls = session.monitor.calls ++ told.flatMap fun event =>
      (session.monitor.registry.hooks event.name).map fun hook => ⟨hook, event⟩ := by
  intro compiled alone told
  obtain ⟨log, hmonitor⟩ := monitor_compileFile behaviour config path session
  refine ⟨?_, ?_, ⟨log, hmonitor⟩, ?_⟩
  · have hdoes := does_compileFile behaviour config path
    exact hdoes.agree hdoes rfl
  · intro options report destination
    have hdoes := does_exportReport behaviour options report destination
    exact hdoes.agree hdoes rfl
  · rw [hmonitor]
    rcases announcements_cases path config.withLocations compiled.1 with hnone | ⟨event, hone⟩
    · simp [told, compiled, hnone, Monitor.tell]
    · simp only [told, compiled, hone, Monitor.tell, List.foldl_cons, List.foldl_nil,
        Monitor.calls_notify, List.flatMap_cons, List.flatMap_nil, List.append_nil]

end Run

end PfaScript
