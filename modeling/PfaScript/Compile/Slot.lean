import PfaScript.Compile.Constant

/-!
# Shared state

The fields `cells` and `pools` of a document declare its shared state. Each declares slots by name;
a slot has a type, an initial value, and flags that say whether it is shared and whether it is
rolled back. A cell must be initialized; a pool may start empty.
-/

namespace PfaScript

namespace Slot

/-- The settings of a slot. -/
def keys : List String := ["type", "init", "shared", "rollback"]

/-- The settings of a slot that are true or false. -/
def flags : List String := ["shared", "rollback"]

/-- The settings that a slot of a store must have. -/
def required : Store → List String
  | .cells => ["type", "init"]
  | .pools => ["type"]

/-- Whether a value can be a flag. -/
def isFlag : Json → Bool
  | .bool _ => true
  | _ => false

/-- One setting of a slot. -/
def setting (store : Store) (name key : String) (value : Node) : Except Fault Json :=
  if !keys.contains key then .error ⟨.slotKey store name key, value.span⟩ else do
  let constant ← value.constant
  if flags.contains key && !isFlag constant then .error ⟨.slotFlag store name key, value.span⟩
  else return constant

/-- The declaration of a slot. -/
def declaration (store : Store) (name : String) : Node → Except Fault Json
  | .object span properties => do
    let given := Entries.ofList (← entriesWith (setting store name) properties)
    match (required store).find? (!given.contains ·) with
    | some key => .error ⟨.slotIncomplete store name key, span⟩
    | none => return tagged span given
  | node => .error ⟨.slotShape store name, node.span⟩

end Slot

/-- The slots that a node declares. -/
def Node.slots (store : Store) : Node → Except Fault Json
  | .object span properties => do
    return tagged span (Entries.ofList (← entriesWith (Slot.declaration store) properties))
  | node => .error ⟨.storeShape store, node.span⟩

end PfaScript
