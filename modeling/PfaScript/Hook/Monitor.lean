import PfaScript.Hook.Registry
import PfaScript.Log
import PfaScript.Setting.Coerce

/-!
# Telling hooks of events

A `Monitor` is what watches a run: the registered hooks, the calls that they received, and the log.
`Monitor.notify` tells an event to the hooks that are registered for it when it starts. A hook may
change the registry, which does not change who is told, and it may fail, which is logged and changes
nothing for the others.

What hook functions do is given by a `Behaviour`, so that statements can speak of all of them.
-/

namespace PfaScript

namespace Hook

/-- A change that a hook makes to the registry. -/
inductive Action where
  | register (name : String) (hook : Id)
  | unregister (name : String) (hook : Id)
deriving DecidableEq, Repr

/-- What a hook does when it is called: it changes the registry and then fails or not. -/
structure Reaction where
  actions : List Action := []
  fails : Bool := false
deriving DecidableEq, Repr

/-- A call of a hook. -/
structure Call where
  hook : Id
  event : Event
deriving Repr

end Hook

/-- What watches a run. -/
structure Monitor where
  registry : Hook.Registry := []
  /-- The handles of all registrations, the oldest first. -/
  handles : List Hook.Handle := []
  /-- The calls so far, the oldest first. -/
  calls : List Hook.Call := []
  log : Log := {}
deriving Repr

/-- What hooks do when they are told an event. It may depend on all that has happened before. -/
abbrev Hook.Behaviour := Hook.Id → Hook.Event → Monitor → Hook.Reaction

namespace Monitor

/-- Writes a record to the log. -/
def record (monitor : Monitor) (level : Level) (logger message : String) : Monitor :=
  { monitor with log := monitor.log.add level logger message }

/-- Registers a hook for an event and keeps the handle. -/
def register (monitor : Monitor) (name : String) (hook : Hook.Id) : Monitor :=
  { monitor with
    registry := monitor.registry.add name hook
    handles := monitor.handles ++ [{ name, hook }] }

/-- Takes back the oldest registration of a hook for an event. -/
def unregister (monitor : Monitor) (name : String) (hook : Hook.Id) : Monitor :=
  { monitor with registry := monitor.registry.remove name hook }

/-- Closes the handle with this number. -/
def close (monitor : Monitor) (index : Nat) : Monitor :=
  match monitor.handles[index]? with
  | none => monitor
  | some handle =>
    let (handle, registry) := handle.close monitor.registry
    { monitor with registry, handles := monitor.handles.set index handle }

/-- Registers a hook while something else happens, and takes the registration back afterwards. -/
def during {α : Type} (name : String) (hook : Hook.Id) (body : Monitor → α × Monitor)
    (monitor : Monitor) : α × Monitor :=
  let (result, monitor) := body { monitor with registry := monitor.registry.add name hook }
  let (_, registry) := Hook.Handle.close { name, hook } monitor.registry
  (result, { monitor with registry })

/-- Makes a change that a hook asks for. -/
def perform (monitor : Monitor) : Hook.Action → Monitor
  | .register name hook => monitor.register name hook
  | .unregister name hook => monitor.unregister name hook

/-- Calls a hook: the call is noted, then the hook does what it does. -/
def call (behaviour : Hook.Behaviour) (event : Hook.Event) (monitor : Monitor) (hook : Hook.Id) :
    Bool × Monitor :=
  let reaction := behaviour hook event monitor
  let called := { monitor with calls := monitor.calls ++ [⟨hook, event⟩] }
  let changed := reaction.actions.foldl perform called
  if reaction.fails then
    (false, changed.record .error "pfajs.telemetry.hooks" s!"hook for {event.name} failed")
  else (true, changed)

/-- Calls hooks one after the other, and counts those that do not fail. -/
def callAll (behaviour : Hook.Behaviour) (event : Hook.Event) (monitor : Monitor) :
    List Hook.Id → Nat × Monitor
  | [] => (0, monitor)
  | hook :: rest =>
    let (succeeded, monitor) := monitor.call behaviour event hook
    let (count, monitor) := monitor.callAll behaviour event rest
    (if succeeded then count + 1 else count, monitor)

/-- Tells an event to the hooks that are registered for it now, and counts those that do not fail.
-/
def notify (behaviour : Hook.Behaviour) (event : Hook.Event) (monitor : Monitor) : Nat × Monitor :=
  monitor.callAll behaviour event (monitor.registry.hooks event.name)

/-- Tells an event whose payload is whatever stands for a mapping. If it does not stand for one,
nobody is called. -/
def dispatch (behaviour : Hook.Behaviour) (name : String) (payload : Setting) (monitor : Monitor) :
    Except MappingError Nat × Monitor :=
  match payload.toEntries with
  | .error error => (.error error, monitor)
  | .ok payload =>
    let (count, monitor) := monitor.notify behaviour ⟨name, payload⟩
    (.ok count, monitor)

end Monitor

end PfaScript
