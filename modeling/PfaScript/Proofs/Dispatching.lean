import PfaScript.Proofs.Ownership

/-!
# Who is told an event

An event is told to the hooks that are registered for it at the start, whatever they do to the
registry meanwhile. `Monitor.heard` says what hooks leave behind that have answered an event one
after the other: the changes that they made, in their order, their calls, and a record for each that
failed. Telling an event leaves this behind (`Monitor.callAll_eq`), where each hook answers what the
ones before it have left (`Hook.Answered`). No event is ever bound to an empty list of hooks
(`Monitor.nonempty_run`).
-/

namespace PfaScript

namespace Hook

/-! ### Changes of a registry -/

namespace Registry

/-- The registry after a change that a hook asks for. -/
def perform (registry : Registry) : Action → Registry
  | .register name hook => registry.add name hook
  | .unregister name hook => registry.remove name hook

/-- Every event in the registry has hooks. -/
def Nonempty (registry : Registry) : Prop := ∀ entry ∈ registry, entry.2 ≠ []

namespace Nonempty

variable {registry : Registry}

theorem insert (h : registry.Nonempty) {hooks : List Id} (hne : hooks ≠ []) (name : String) :
    Registry.Nonempty (registry.insert name hooks) := by
  intro entry hentry
  rcases Entries.mem_of_mem_insert hentry with hold | rfl
  · exact h entry hold
  · exact hne

theorem add (h : registry.Nonempty) (name : String) (hook : Id) :
    (registry.add name hook).Nonempty :=
  h.insert (by simp) name

/-- An event whose last hook is removed is forgotten. -/
theorem remove (h : registry.Nonempty) (name : String) (hook : Id) :
    (registry.remove name hook).Nonempty := by
  unfold Registry.remove
  split
  · split
    · exact fun entry hentry => h entry (Entries.mem_erase.mp hentry).1
    next hne => exact h.insert hne name
  · exact h

theorem performAll (h : registry.Nonempty) (actions : List Action) :
    Registry.Nonempty (actions.foldl Registry.perform registry) := by
  induction actions generalizing registry with
  | nil => exact h
  | cons action rest ih =>
      refine ih ?_
      cases action with
      | register name hook => exact h.add name hook
      | unregister name hook => exact h.remove name hook

end Nonempty

end Registry

/-- The handle of the registration that a change makes, if it makes one. -/
def Action.handle? : Action → Option Handle
  | .register name hook => some { name, hook }
  | .unregister _ _ => none

/-- A hook that was called, and what it did. -/
structure Answer where
  hook : Id
  reaction : Reaction
deriving DecidableEq, Repr

/-- The log with a record for each of the answers that is a failure. -/
def Answer.logAll (event : Event) (log : Log) (answers : List Answer) : Log :=
  (answers.filter (·.reaction.fails)).foldl
    (fun log _ => log.add .error "pfajs.telemetry.hooks" s!"hook for {event.name} failed") log

end Hook

open Hook

namespace Monitor

/-! ### What hooks leave behind -/

/-- What is left behind by hooks that have answered an event, the first answer first. -/
def heard (monitor : Monitor) (event : Event) (answers : List Answer) : Monitor :=
  let actions := answers.flatMap (·.reaction.actions)
  { registry := actions.foldl Registry.perform monitor.registry
    handles := monitor.handles ++ actions.filterMap Action.handle?
    calls := monitor.calls ++ answers.map fun answer => ⟨answer.hook, event⟩
    log := Answer.logAll event monitor.log answers }

variable (behaviour : Behaviour) (event : Event) (monitor : Monitor)

theorem heard_nil : monitor.heard event [] = monitor := by
  simp [heard, Answer.logAll]

theorem heard_heard (answers others : List Answer) :
    (monitor.heard event answers).heard event others = monitor.heard event (answers ++ others) := by
  simp [heard, Answer.logAll, List.filterMap_append]

theorem performAll_eq (actions : List Action) :
    actions.foldl perform monitor =
      { monitor with
        registry := actions.foldl Registry.perform monitor.registry
        handles := monitor.handles ++ actions.filterMap Action.handle? } := by
  induction actions generalizing monitor with
  | nil => simp
  | cons action rest ih =>
      rw [List.foldl_cons, ih]
      cases action <;>
        simp [perform, register, unregister, Registry.perform, Action.handle?, List.filterMap_cons]

/-- One call leaves behind what the hook does. -/
theorem call_eq (hook : Id) :
    monitor.call behaviour event hook =
      (!(behaviour hook event monitor).fails,
        monitor.heard event [⟨hook, behaviour hook event monitor⟩]) := by
  unfold call
  simp only [performAll_eq]
  cases hfails : (behaviour hook event monitor).fails <;>
    simp [heard, Answer.logAll, record, hfails]

end Monitor

/-- Each of the hooks has answered the event, and what the ones before it have left behind. -/
def Hook.Answered (behaviour : Behaviour) (event : Event) (monitor : Monitor)
    (answers : List Answer) : Prop :=
  ∀ (k : Nat) (answer : Answer), answers[k]? = some answer →
    answer.reaction = behaviour answer.hook event (monitor.heard event (answers.take k))

theorem Hook.Answered.cons {behaviour : Behaviour} {event : Event} {monitor : Monitor} {hook : Id}
    {answers : List Answer}
    (h : Answered behaviour event
      (monitor.heard event [⟨hook, behaviour hook event monitor⟩]) answers) :
    Answered behaviour event monitor (⟨hook, behaviour hook event monitor⟩ :: answers) := by
  intro k answer hanswer
  cases k with
  | zero =>
      cases hanswer
      rw [List.take_zero, Monitor.heard_nil]
  | succ k =>
      rw [h k answer hanswer, Monitor.heard_heard]
      rfl

namespace Monitor

variable (behaviour : Behaviour) (event : Event) (monitor : Monitor)

/-- Hooks that are called one after the other answer each, and those that do not fail are counted.
-/
theorem callAll_eq (hooks : List Id) :
    ∃ answers : List Answer, answers.map Answer.hook = hooks ∧
      Answered behaviour event monitor answers ∧
      monitor.callAll behaviour event hooks =
        (answers.countP (!·.reaction.fails), monitor.heard event answers) := by
  induction hooks generalizing monitor with
  | nil => exact ⟨[], rfl, nofun, by rw [callAll, heard_nil]; rfl⟩
  | cons hook rest ih =>
      obtain ⟨answers, hhooks, hanswered, hcalled⟩ :=
        ih (monitor.heard event [⟨hook, behaviour hook event monitor⟩])
      refine ⟨⟨hook, behaviour hook event monitor⟩ :: answers, by rw [List.map_cons, hhooks],
        hanswered.cons, ?_⟩
      rw [callAll, call_eq]
      dsimp only
      rw [hcalled, heard_heard, List.countP_cons]
      cases (behaviour hook event monitor).fails <;> rfl

/-- An event is told once for each registration that is there at the start, in order. -/
theorem calls_notify :
    (monitor.notify behaviour event).2.calls =
      monitor.calls ++ (monitor.registry.hooks event.name).map fun hook => ⟨hook, event⟩ := by
  obtain ⟨answers, hhooks, -, hcalled⟩ :=
    callAll_eq behaviour event monitor (monitor.registry.hooks event.name)
  rw [notify, hcalled, ← hhooks, List.map_map]
  rfl

/-! ### Runs -/

variable {monitor} in
/-- No step binds an event to an empty list of hooks. -/
theorem nonempty_take (h : monitor.registry.Nonempty) (step : Step) :
    (monitor.take behaviour step).registry.Nonempty := by
  cases step with
  | register name hook => exact h.add name hook
  | unregister name hook => exact h.remove name hook
  | close index =>
      rw [take, close]
      split
      · exact h
      next handle _ =>
        dsimp only
        unfold Handle.close
        split
        · exact h
        · exact h.remove handle.name handle.hook
  | dispatch name payload =>
      rw [take, dispatch]
      split
      · exact h
      next payload _ =>
        obtain ⟨answers, -, -, hcalled⟩ :=
          callAll_eq behaviour ⟨name, payload⟩ monitor (monitor.registry.hooks name)
        rw [notify, hcalled]
        exact h.performAll _

theorem nonempty_run (steps : List Step) :
    (steps.foldl (Monitor.take behaviour) {}).registry.Nonempty := by
  induction steps using List.reverseRecOn with
  | nil => exact nofun
  | append_singleton steps step ih =>
      rw [List.foldl_append]
      exact nonempty_take behaviour ih step

/-- **An event is told to the hooks that are registered when it starts.** After every run, and
whatever the hooks do: if the payload is no mapping, nobody is called and nothing changes. Otherwise
exactly the hooks that are registered for the event answer it, once each and in the order of their
registrations, each with what the ones before it have left behind; those that do not fail are
counted; and the registry is changed by what the hooks do, in the order of their calls. At no time
is an event bound to an empty list of hooks. -/
theorem dispatch_snapshot (steps : List Step) (name : String) (payload : Setting) :
    let monitor := steps.foldl (Monitor.take behaviour) {}
    let told := monitor.dispatch behaviour name payload
    monitor.registry.Nonempty ∧
    (∀ error, payload.toEntries = .error error → told = (.error error, monitor)) ∧
    ∀ entries, payload.toEntries = .ok entries →
      let event : Event := ⟨name, entries⟩
      told.2.calls =
        monitor.calls ++ (monitor.registry.hooks name).map (fun hook => ⟨hook, event⟩) ∧
      ∃ answers : List Answer, answers.map Answer.hook = monitor.registry.hooks name ∧
        Answered behaviour event monitor answers ∧
        told = (.ok (answers.countP (!·.reaction.fails)), monitor.heard event answers) ∧
        told.2.registry =
          (answers.flatMap (·.reaction.actions)).foldl Registry.perform monitor.registry ∧
        ∀ k, (monitor.heard event (answers.take k)).registry.Nonempty := by
  intro monitor told
  have hne : monitor.registry.Nonempty := nonempty_run behaviour steps
  refine ⟨hne, fun error herror => ?_, fun entries hentries => ?_⟩
  · simp only [told, dispatch, herror]
  · intro event
    have htold : told = (.ok (monitor.notify behaviour event).1,
        (monitor.notify behaviour event).2) := by
      simp only [told, dispatch, hentries, event]
    obtain ⟨answers, hhooks, hanswered, hcalled⟩ :=
      callAll_eq behaviour event monitor (monitor.registry.hooks name)
    rw [htold]
    refine ⟨calls_notify behaviour event monitor, answers, hhooks, hanswered, ?_, ?_, ?_⟩
    · rw [notify, hcalled]
    · rw [notify, hcalled]
      rfl
    · exact fun k => hne.performAll _

/-- A hook that leaves and takes `log` with it, a hook that fails after it has brought in another
one, and hooks that only listen. -/
def restless : Behaviour := fun hook event _ =>
  if hook = "quit" then
    { actions := [.unregister event.name "quit", .unregister event.name "log"] }
  else if hook = "log" then { actions := [.register event.name "late"], fails := true }
  else {}

/-- Three registrations, of hooks that change the registry while they are told the event. -/
theorem dispatch_snapshot_restless :
    let monitor := [Step.register "saved" "quit", .register "saved" "log",
      .register "saved" "count"].foldl (Monitor.take restless) {}
    let told := monitor.dispatch restless "saved" (.map [(.str "path", .str "a.json")])
    told.2.calls = ["quit", "log", "count"].map
      (fun hook => ⟨hook, ⟨"saved", [(.str "path", .str "a.json")]⟩⟩) ∧
    told.1 = .ok 2 ∧ told.2.registry = [("saved", ["count", "late"])] ∧
    monitor.dispatch restless "saved" (.int 5) = (.error (.notIterable "int"), monitor) := by
  intro monitor told
  obtain ⟨-, hmapping, -⟩ := dispatch_snapshot restless [.register "saved" "quit",
    .register "saved" "log", .register "saved" "count"] "saved" (.int 5)
  obtain ⟨-, -, htold⟩ := dispatch_snapshot restless [.register "saved" "quit",
    .register "saved" "log", .register "saved" "count"] "saved"
    (.map [(.str "path", .str "a.json")])
  exact ⟨(htold _ rfl).1, rfl, rfl, hmapping _ rfl⟩

end Monitor

end PfaScript
