import PfaScript.Setting.Basic

/-!
# Merging settings

`Setting.merge` lays one mapping over another: where both have a mapping under a key the two are
merged in turn, and everywhere else the second one's value wins.
-/

namespace PfaScript

namespace Setting

mutual

/-- The entries of `base` with those of the second mapping laid over them. -/
def merge (base : Entries Key Setting) : List (Key × Setting) → Entries Key Setting
  | [] => base
  | (key, value) :: rest => merge (base.insert key (replacement (base.get? key) value)) rest

/-- What takes the place of an old value: of two mappings the merged one, else the new value. -/
def replacement (old : Option Setting) : Setting → Setting
  | .map changes =>
    match old with
    | some (.map entries) => .map (merge entries changes)
    | _ => .map changes
  | value => value

end

end Setting

end PfaScript
