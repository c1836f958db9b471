import PfaScript.Entries
import PfaScript.Setting.Basic

/-!
# Hooks

Hooks are functions that want to hear of events. They are registered under the name of an event, and
one hook may be registered several times. A registration can be taken back through the handle that
it gave.
-/

namespace PfaScript

namespace Hook

/-- What a hook function is known by. -/
abbrev Id := String

/-- What a hook function is told. -/
structure Event where
  name : String
  payload : Entries Key Setting
deriving Repr

/-- Why a hook cannot be registered. -/
inductive RegisterError where
  | nameless
  | notCallable
deriving DecidableEq, Repr

/-- The wording of a register error. -/
def RegisterError.message : RegisterError → String
  | .nameless => "hook name must be a non-empty string"
  | .notCallable => "hook callback must be callable"

/-- The name of an event, given as a setting: a text that is not empty. -/
def eventName : Setting → Except RegisterError String
  | .str "" => .error .nameless
  | .str name => .ok name
  | _ => .error .nameless

/-- The hooks registered for each event, the oldest registration first. -/
abbrev Registry := Entries String (List Id)

namespace Registry

/-- The hooks registered for an event. -/
def hooks (registry : Registry) (name : String) : List Id :=
  (registry.get? name).getD []

/-- The registry with one more registration. -/
def add (registry : Registry) (name : String) (hook : Id) : Registry :=
  registry.insert name (registry.hooks name ++ [hook])

/-- The registry without the oldest registration of a hook for an event, if there is one. An event
without hooks is forgotten. -/
def remove (registry : Registry) (name : String) (hook : Id) : Registry :=
  if hook ∈ registry.hooks name then
    match (registry.hooks name).erase hook with
    | [] => registry.erase name
    | hooks => registry.insert name hooks
  else registry

end Registry

/-- What is left of a registration for the one who made it. -/
structure Handle where
  name : String
  hook : Id
  closed : Bool := false
deriving DecidableEq, Repr

/-- Takes a registration back; a handle does so once. -/
def Handle.close (handle : Handle) (registry : Registry) : Handle × Registry :=
  if handle.closed then (handle, registry)
  else ({ handle with closed := true }, registry.remove handle.name handle.hook)

end Hook

end PfaScript
