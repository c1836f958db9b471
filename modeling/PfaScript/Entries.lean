/-!
# Ordered entries

A mapping as the list of its entries, in the order in which the keys first appeared. Assigning to a
key that is already there keeps its place and takes the new value, so the written order of a
document survives every update.

Keys are compared with `==`, which may identify keys that are written differently.
-/

namespace PfaScript

/-- A mapping as the list of its entries, in the order in which the keys first appeared. -/
abbrev Entries (κ α : Type) := List (κ × α)

namespace Entries

variable {κ α β : Type}

/-- The keys, in order. -/
def keys (entries : Entries κ α) : List κ :=
  entries.map Prod.fst

/-- The values, in the order of their keys. -/
def values (entries : Entries κ α) : List α :=
  entries.map Prod.snd

variable [BEq κ]

/-- The value of the first entry with this key. -/
def get? : Entries κ α → κ → Option α
  | [], _ => none
  | (k, v) :: rest, key => if k == key then some v else get? rest key

/-- Whether some entry has this key. -/
def contains (entries : Entries κ α) (key : κ) : Bool :=
  entries.any fun entry => entry.1 == key

/-- Assigns a value to a key: in place if the key is there, at the end otherwise. -/
def insert : Entries κ α → κ → α → Entries κ α
  | [], key, value => [(key, value)]
  | (k, v) :: rest, key, value =>
    if k == key then (k, value) :: rest else (k, v) :: insert rest key value

/-- Assigns the second mapping's entries one after the other. -/
def update (entries : Entries κ α) (changes : Entries κ α) : Entries κ α :=
  changes.foldl (fun acc entry => acc.insert entry.1 entry.2) entries

/-- The mapping made by assigning the listed entries in order, so that of two entries with one key
the place is the first one's and the value the last one's. -/
def ofList (entries : List (κ × α)) : Entries κ α :=
  update [] entries

/-- Removes every entry with this key. -/
def erase (entries : Entries κ α) (key : κ) : Entries κ α :=
  entries.filter fun entry => !(entry.1 == key)

end Entries

end PfaScript
