import PfaScript.Hook.Monitor
import PfaScript.Proofs.Entries

/-!
# Handles and their registrations

A handle is known by the event and the hook of its registration only, and closing it takes back the
oldest registration of that hook for that event. If a hook is registered several times for one
event, this need not be the registration that gave the handle.

To say which registration is which, a `Ledger` lists the registrations of the registry with the
numbers of their handles. `Trail` keeps a ledger beside the monitor in a run of steps: forgetting
the numbers gives back the registry, and every number belongs to one registration, of the hook and
for the event of its handle (`Trail.sound_after`). Closing a handle then takes back nothing but its
own registration exactly if no older registration of its hook for its event is left, and a
registration that is taken back at once leaves the registry as it was exactly if it does not
overtake another hook (`Monitor.close_own_iff`).
-/

namespace PfaScript

namespace Hook

/-- A registration, with the number of the handle that it gave. -/
structure Registration where
  hook : Id
  handle : Nat
deriving DecidableEq, Repr

/-- The registrations for each event, the oldest first. -/
abbrev Ledger := Entries String (List Registration)

namespace Ledger

/-- The registrations for an event. -/
def made (ledger : Ledger) (name : String) : List Registration :=
  (ledger.get? name).getD []

/-- The registry without the numbers of handles. -/
def registry (ledger : Ledger) : Registry :=
  ledger.map fun (name, made) => (name, made.map Registration.hook)

/-- The ledger with one more registration. -/
def add (ledger : Ledger) (name : String) (registration : Registration) : Ledger :=
  ledger.insert name (ledger.made name ++ [registration])

/-- The oldest registration of a hook for an event. -/
def oldest? (ledger : Ledger) (name : String) (hook : Id) : Option Registration :=
  (ledger.made name).find? (·.hook == hook)

/-- The ledger with other registrations for an event. An event without any is forgotten. -/
def put (ledger : Ledger) (name : String) : List Registration → Ledger
  | [] => ledger.erase name
  | made => ledger.insert name made

/-- The ledger without the oldest registration of a hook for an event, if there is one. -/
def removeOldest (ledger : Ledger) (name : String) (hook : Id) : Ledger :=
  if (ledger.oldest? name hook).isSome then
    ledger.put name ((ledger.made name).eraseP (·.hook == hook))
  else ledger

/-- The ledger without the registration that gave a handle. All others stay, in their order; an
event without any is forgotten. -/
def without (ledger : Ledger) (handle : Nat) : Ledger :=
  (ledger.map fun (name, made) => (name, made.filter (·.handle ≠ handle))).filter fun entry =>
    !entry.2.isEmpty

end Ledger

/-! ### Runs -/

/-- A change of the registry. -/
inductive Operation where
  | register (name : String) (hook : Id)
  | unregister (name : String) (hook : Id)
  | close (handle : Nat)
deriving DecidableEq, Repr

/-- The change that a hook asks for. -/
def Action.operation : Action → Operation
  | .register name hook => .register name hook
  | .unregister name hook => .unregister name hook

/-- The handles of all registrations, and the registrations that are left. -/
structure Books where
  handles : List Handle := []
  ledger : Ledger := []
deriving Repr

/-- The books after a change of the registry. -/
def Books.perform (books : Books) : Operation → Books
  | .register name hook =>
    { handles := books.handles ++ [{ name, hook }]
      ledger := books.ledger.add name ⟨hook, books.handles.length⟩ }
  | .unregister name hook => { books with ledger := books.ledger.removeOldest name hook }
  | .close index =>
    match books.handles[index]? with
    | none => books
    | some handle =>
      if handle.closed then books
      else
        { handles := books.handles.set index { handle with closed := true }
          ledger := books.ledger.removeOldest handle.name handle.hook }

/-- A step of a run. -/
inductive Step where
  | register (name : String) (hook : Id)
  | unregister (name : String) (hook : Id)
  | close (handle : Nat)
  | dispatch (name : String) (payload : Setting)

end Hook

namespace Monitor

open Hook

/-- The monitor after a step. -/
def take (behaviour : Behaviour) (monitor : Monitor) : Step → Monitor
  | .register name hook => monitor.register name hook
  | .unregister name hook => monitor.unregister name hook
  | .close index => monitor.close index
  | .dispatch name payload => (monitor.dispatch behaviour name payload).2

/-- The changes that hooks make when they are called one after the other. -/
def callOperations (behaviour : Behaviour) (event : Event) (monitor : Monitor) :
    List Id → List Operation
  | [] => []
  | hook :: rest =>
    (behaviour hook event monitor).actions.map Action.operation ++
      callOperations behaviour event (monitor.call behaviour event hook).2 rest

/-- The changes that a step makes to the registry. -/
def operations (behaviour : Behaviour) (monitor : Monitor) : Step → List Operation
  | .register name hook => [.register name hook]
  | .unregister name hook => [.unregister name hook]
  | .close index => [.close index]
  | .dispatch name payload =>
    match payload.toEntries with
    | .error _ => []
    | .ok payload => monitor.callOperations behaviour ⟨name, payload⟩ (monitor.registry.hooks name)

end Monitor

namespace Hook

/-- A monitor and the books beside it. -/
structure Trail where
  monitor : Monitor := {}
  books : Books := {}

namespace Trail

/-- What a step does to a monitor and to the books. -/
def take (behaviour : Behaviour) (trail : Trail) (step : Step) : Trail where
  monitor := trail.monitor.take behaviour step
  books := (trail.monitor.operations behaviour step).foldl Books.perform trail.books

/-- The monitor and the books after a run of steps. -/
def after (behaviour : Behaviour) (steps : List Step) : Trail :=
  steps.foldl (take behaviour) {}

end Trail

/-! ### Ledgers and registries -/

namespace Ledger

variable (ledger : Ledger)

theorem get?_registry (name : String) :
    ledger.registry.get? name = (ledger.get? name).map (·.map Registration.hook) := by
  induction ledger with
  | nil => rfl
  | cons entry rest ih =>
      rw [registry] at ih
      simp only [registry, List.map_cons, Entries.get?, ih]
      split <;> rfl

theorem hooks_registry (name : String) :
    ledger.registry.hooks name = (ledger.made name).map Registration.hook := by
  rw [Registry.hooks, get?_registry, made]
  cases ledger.get? name <;> rfl

theorem registry_insert (name : String) (made : List Registration) :
    registry (ledger.insert name made) =
      ledger.registry.insert name (made.map Registration.hook) := by
  induction ledger with
  | nil => rfl
  | cons entry rest ih =>
      rw [registry] at ih
      simp only [Entries.insert, registry, List.map_cons]
      split
      · rfl
      · rw [List.map_cons, ih, registry]

theorem registry_erase (name : String) :
    registry (ledger.erase name) = ledger.registry.erase name := by
  simp only [registry, Entries.erase, List.filter_map]
  rfl

theorem registry_add (name : String) (registration : Registration) :
    (ledger.add name registration).registry = ledger.registry.add name registration.hook := by
  rw [add, registry_insert, Registry.add, hooks_registry, List.map_append]
  rfl

theorem isSome_oldest? (name : String) (hook : Id) :
    (ledger.oldest? name hook).isSome ↔ hook ∈ ledger.registry.hooks name := by
  simp [oldest?, hooks_registry]

theorem registry_removeOldest (name : String) (hook : Id) :
    (ledger.removeOldest name hook).registry = ledger.registry.remove name hook := by
  have herase : (ledger.registry.hooks name).erase hook =
      ((ledger.made name).eraseP (·.hook == hook)).map Registration.hook := by
    rw [hooks_registry, List.erase_eq_eraseP, List.eraseP_map]
    simp only [Function.comp_def, BEq.comm]
  rw [removeOldest, Registry.remove, herase]
  by_cases hmem : hook ∈ ledger.registry.hooks name
  · rw [if_pos ((ledger.isSome_oldest? name hook).mpr hmem), if_pos hmem]
    cases (ledger.made name).eraseP (·.hook == hook) with
    | nil => exact registry_erase ledger name
    | cons first rest => exact registry_insert ledger name (first :: rest)
  · rw [if_neg (fun h => hmem ((ledger.isSome_oldest? name hook).mp h)), if_neg hmem]

/-! ### Registrations for one event -/

variable {ledger} {name : String} {made : List Registration}

theorem made_of_mem (hnodup : ledger.keys.Nodup) (h : (name, made) ∈ ledger) :
    ledger.made name = made := by
  rw [Ledger.made, Entries.get?_of_mem hnodup h]
  rfl

theorem mem_of_mem_made {registration : Registration} (h : registration ∈ ledger.made name) :
    (name, ledger.made name) ∈ ledger := by
  rw [Ledger.made] at h ⊢
  cases hget : ledger.get? name with
  | none => simp [hget] at h
  | some found => exact Entries.mem_of_get? hget

theorem nodup_keys_put (hnodup : ledger.keys.Nodup) (name : String) (made : List Registration) :
    (ledger.put name made).keys.Nodup := by
  cases made with
  | nil => exact hnodup.sublist (List.filter_sublist.map Prod.fst)
  | cons first rest => exact Entries.nodup_keys_insert hnodup name _

theorem mem_of_mem_put {entry : String × List Registration} (h : entry ∈ ledger.put name made) :
    entry ∈ ledger ∨ entry = (name, made) ∧ made ≠ [] := by
  cases made with
  | nil => exact .inl (Entries.mem_erase.mp h).1
  | cons first rest =>
      exact (Entries.mem_of_mem_insert h).imp_right fun heq => ⟨heq, List.cons_ne_nil _ _⟩

/-! ### Taking back one registration -/

theorem without_cons (name : String) (made : List Registration) (rest : Ledger) (number : Nat) :
    Ledger.without ((name, made) :: rest) number =
      if made.filter (·.handle ≠ number) = [] then rest.without number
      else (name, made.filter (·.handle ≠ number)) :: rest.without number := by
  simp only [without, List.map_cons, List.filter_cons, Bool.not_eq_true', List.isEmpty_eq_false_iff]
  split_ifs <;> simp_all

/-- Nothing is taken back if there is no registration with this number. -/
theorem without_eq_self {number : Nat} (hne : ∀ entry ∈ ledger, entry.2 ≠ [])
    (hnumber : ∀ entry ∈ ledger, ∀ r ∈ entry.2, r.handle ≠ number) :
    ledger.without number = ledger := by
  induction ledger with
  | nil => rfl
  | cons entry rest ih =>
      obtain ⟨name, made⟩ := entry
      rw [List.forall_mem_cons] at hne hnumber
      have hfilter : made.filter (·.handle ≠ number) = made :=
        List.filter_eq_self.mpr fun r hr => decide_eq_true (hnumber.1 r hr)
      rw [without_cons, hfilter, if_neg hne.1, ih hne.2 hnumber.2]

/-- If the number stands for a registration for one event only, it is taken back there. -/
theorem put_filter_eq_without {number : Nat} (hnodup : ledger.keys.Nodup)
    (hne : ∀ entry ∈ ledger, entry.2 ≠ []) (hname : name ∈ ledger.keys)
    (hother : ∀ entry ∈ ledger, entry.1 ≠ name → ∀ r ∈ entry.2, r.handle ≠ number) :
    ledger.put name ((ledger.made name).filter (·.handle ≠ number)) = ledger.without number := by
  induction ledger with
  | nil => cases hname
  | cons entry rest ih =>
      obtain ⟨key, first⟩ := entry
      rw [Entries.keys_cons, List.nodup_cons] at hnodup
      rw [List.forall_mem_cons] at hne hother
      rw [without_cons]
      by_cases hkey : key = name
      · subst hkey
        have hrest : Ledger.without rest number = rest := by
          refine without_eq_self hne.2 fun entry hentry => hother.2 entry hentry ?_
          rintro rfl
          exact hnodup.1 (Entries.mem_keys_of_mem hentry)
        have hmade : Ledger.made ((key, first) :: rest) key = first := by
          simp [Ledger.made, Entries.get?]
        rw [hmade, hrest]
        cases first.filter (·.handle ≠ number) with
        | nil =>
            have herase : Entries.erase ((key, first) :: rest) key = Entries.erase rest key := by
              simp [Entries.erase]
            rw [put, herase, Entries.erase_eq_self hnodup.1, if_pos rfl]
        | cons r others => simp [put, Entries.insert]
      · have hmem : name ∈ Entries.keys rest :=
          (List.mem_cons.mp hname).resolve_left fun heq => hkey heq.symm
        have hmade : Ledger.made ((key, first) :: rest) name = Ledger.made rest name := by
          simp [Ledger.made, Entries.get?, hkey]
        have hfilter : first.filter (·.handle ≠ number) = first :=
          List.filter_eq_self.mpr fun r hr => decide_eq_true (hother.1 hkey r hr)
        have hput (made : List Registration) : Ledger.put ((key, first) :: rest) name made =
            (key, first) :: Ledger.put rest name made := by
          cases made <;> simp [put, Entries.erase, Entries.insert, hkey]
        rw [hmade, hput, hfilter, if_neg hne.1, ih hnodup.2 hne.2 hmem hother.2]

end Ledger

/-! ### Sound books -/

/-- Every registration that is left belongs to a handle of its own, for its event and its hook. -/
structure Books.Sound (books : Books) : Prop where
  nodup : books.ledger.keys.Nodup
  nonempty : ∀ entry ∈ books.ledger, entry.2 ≠ []
  numbered : ∀ entry ∈ books.ledger, (entry.2.map Registration.handle).Nodup
  owned : ∀ entry ∈ books.ledger, ∀ r ∈ entry.2,
    ∃ closed, books.handles[r.handle]? = some ⟨entry.1, r.hook, closed⟩

namespace Books.Sound

variable {books : Books} {name : String}

theorem owned_made (h : books.Sound) {r : Registration} (hr : r ∈ books.ledger.made name) :
    ∃ closed, books.handles[r.handle]? = some ⟨name, r.hook, closed⟩ :=
  h.owned _ (Ledger.mem_of_mem_made hr) r hr

theorem numbered_made (h : books.Sound) (name : String) :
    ((books.ledger.made name).map Registration.handle).Nodup := by
  cases hmade : books.ledger.made name with
  | nil => exact List.nodup_nil
  | cons first rest =>
      rw [← hmade]
      have hfirst : first ∈ books.ledger.made name := hmade ▸ List.mem_cons_self
      exact h.numbered _ (Ledger.mem_of_mem_made hfirst)

/-- Books stay sound if the registrations for one event are replaced by sound ones. -/
theorem put (h : books.Sound) {made : List Registration}
    (hnumbered : (made.map Registration.handle).Nodup)
    (howned : ∀ r ∈ made, ∃ closed, books.handles[r.handle]? = some ⟨name, r.hook, closed⟩) :
    Books.Sound { books with ledger := books.ledger.put name made } where
  nodup := Ledger.nodup_keys_put h.nodup name made
  nonempty entry hentry := by
    rcases Ledger.mem_of_mem_put hentry with hold | ⟨rfl, hne⟩
    · exact h.nonempty entry hold
    · exact hne
  numbered entry hentry := by
    rcases Ledger.mem_of_mem_put hentry with hold | ⟨rfl, -⟩
    · exact h.numbered entry hold
    · exact hnumbered
  owned entry hentry := by
    rcases Ledger.mem_of_mem_put hentry with hold | ⟨rfl, -⟩
    · exact h.owned entry hold
    · exact howned

theorem removeOldest (h : books.Sound) (name : String) (hook : Id) :
    Books.Sound { books with ledger := books.ledger.removeOldest name hook } := by
  rw [Ledger.removeOldest]
  split
  · have hsublist : List.Sublist ((books.ledger.made name).eraseP (·.hook == hook))
        (books.ledger.made name) := List.eraseP_sublist
    exact h.put ((h.numbered_made name).sublist (hsublist.map _))
      fun r hr => h.owned_made (hsublist.subset hr)
  · exact h

/-- Books stay sound if handles are added or closed. -/
theorem handles (h : books.Sound) {handles : List Handle}
    (hkept : ∀ (index : Nat) (handle : Handle), books.handles[index]? = some handle →
      ∃ closed, handles[index]? = some { handle with closed }) :
    Books.Sound { books with handles } where
  nodup := h.nodup
  nonempty := h.nonempty
  numbered := h.numbered
  owned entry hentry r hr := by
    obtain ⟨closed, hclosed⟩ := h.owned entry hentry r hr
    exact hkept r.handle _ hclosed

theorem register (h : books.Sound) (name : String) (hook : Id) :
    Books.Sound (books.perform (.register name hook)) := by
  have hlarger : Books.Sound { books with handles := books.handles ++ [{ name, hook }] } := by
    refine h.handles fun index handle hindex => ⟨handle.closed, ?_⟩
    rw [List.getElem?_append_left (List.getElem?_eq_some_iff.mp hindex).1, hindex]
  have hadd : books.ledger.add name ⟨hook, books.handles.length⟩ =
      books.ledger.put name (books.ledger.made name ++ [⟨hook, books.handles.length⟩]) := by
    rw [Ledger.add]
    cases hmade : books.ledger.made name with
    | nil => rfl
    | cons first rest => rfl
  rw [perform, hadd]
  refine hlarger.put ?_ fun r hr => ?_
  · rw [List.map_append, List.nodup_append]
    refine ⟨h.numbered_made name, List.nodup_singleton _, ?_⟩
    -- The numbers given so far are smaller than the new one.
    rintro number hnumber _ hnew rfl
    obtain ⟨r, hr, rfl⟩ := List.mem_map.mp hnumber
    obtain ⟨closed, hclosed⟩ := h.owned_made hr
    have hlt := (List.getElem?_eq_some_iff.mp hclosed).1
    rw [List.mem_singleton.mp hnew] at hlt
    exact Nat.lt_irrefl _ hlt
  · rcases List.mem_append.mp hr with hold | hnew
    · exact hlarger.owned_made hold
    · rw [List.mem_singleton.mp hnew]
      exact ⟨false, by simp⟩

/-- Every change keeps books sound. -/
theorem perform (h : books.Sound) (operation : Operation) :
    Books.Sound (books.perform operation) := by
  cases operation with
  | register name hook => exact h.register name hook
  | unregister name hook => exact h.removeOldest name hook
  | close index =>
      rw [Books.perform]
      split
      · exact h
      next handle hhandle =>
        split
        · exact h
        · refine (h.removeOldest handle.name handle.hook).handles fun other found hfound => ?_
          by_cases heq : index = other
          · subst heq
            cases hhandle.symm.trans hfound
            have hlt := (List.getElem?_eq_some_iff.mp hhandle).1
            exact ⟨true, by simp [hlt]⟩
          · exact ⟨found.closed, by rw [List.getElem?_set_ne heq, hfound]⟩

end Books.Sound

theorem Books.sound_foldl {books : Books} (h : books.Sound) (operations : List Operation) :
    (operations.foldl Books.perform books).Sound := by
  induction operations generalizing books with
  | nil => exact h
  | cons operation rest ih => exact ih (h.perform operation)

/-! ### Which registration is taken back -/

/-- If numbers are distinct, removing the first registration of a hook is removing its number. -/
theorem eraseP_eq_filter {made : List Registration} {p : Registration → Bool} {r : Registration}
    (hnodup : (made.map Registration.handle).Nodup) (h : made.find? p = some r) :
    made.eraseP p = made.filter (·.handle ≠ r.handle) := by
  induction made with
  | nil => cases h
  | cons first rest ih =>
      rw [List.map_cons, List.nodup_cons] at hnodup
      rw [List.find?_cons] at h
      rw [List.eraseP_cons, List.filter_cons]
      cases hp : p first with
      | true =>
          rw [hp] at h
          cases h
          have hrest : rest.filter (·.handle ≠ r.handle) = rest := by
            refine List.filter_eq_self.mpr fun other hother => decide_eq_true fun heq => ?_
            exact hnodup.1 (heq ▸ List.mem_map_of_mem hother)
          simp only [ne_eq, decide_not] at hrest
          simp [hrest]
      | false =>
          rw [hp] at h
          have hne : first.handle ≠ r.handle := fun heq =>
            hnodup.1 (heq ▸ List.mem_map_of_mem (List.mem_of_find?_eq_some h))
          simpa [hne] using ih hnodup.2 h

namespace Books.Sound

variable {books : Books} {name : String} {hook : Id}

/-- Removing the oldest registration removes it and nothing else. -/
theorem removeOldest_eq_without (h : books.Sound) {r : Registration}
    (hr : books.ledger.oldest? name hook = some r) :
    books.ledger.removeOldest name hook = books.ledger.without r.handle := by
  have hmem : r ∈ books.ledger.made name := List.mem_of_find?_eq_some hr
  have hname : name ∈ books.ledger.keys := Entries.mem_keys_of_mem (Ledger.mem_of_mem_made hmem)
  rw [Ledger.removeOldest, hr, Option.isSome_some, if_pos rfl,
    eraseP_eq_filter (h.numbered_made name) hr]
  refine Ledger.put_filter_eq_without h.nodup h.nonempty hname ?_
  intro entry hentry hne other hother heq
  obtain ⟨closed, hclosed⟩ := h.owned entry hentry other hother
  obtain ⟨closed', hclosed'⟩ := h.owned_made hmem
  rw [heq, hclosed', Option.some.injEq, Handle.mk.injEq] at hclosed
  exact hne hclosed.1.symm

/-- A handle whose hook is not registered for its event has no registration left. -/
theorem without_of_oldest?_none (h : books.Sound) {index : Nat} {handle : Handle}
    (hhandle : books.handles[index]? = some handle)
    (hnone : books.ledger.oldest? handle.name handle.hook = none) :
    books.ledger.without index = books.ledger := by
  refine Ledger.without_eq_self h.nonempty fun entry hentry r hr heq => ?_
  obtain ⟨closed, hclosed⟩ := h.owned entry hentry r hr
  rw [heq, hhandle] at hclosed
  cases hclosed
  obtain ⟨name, made⟩ := entry
  rw [Ledger.oldest?, Ledger.made_of_mem h.nodup hentry, List.find?_eq_none] at hnone
  exact hnone r hr (beq_self_eq_true _)

/-- Taking back the oldest registration of a handle's hook for its event takes back the handle's own
registration, and no other, exactly if no other one is older. -/
theorem removeOldest_eq_without_iff (h : books.Sound) {index : Nat} {handle : Handle}
    (hhandle : books.handles[index]? = some handle) :
    books.ledger.removeOldest handle.name handle.hook = books.ledger.without index ↔
      ∀ r, books.ledger.oldest? handle.name handle.hook = some r → r.handle = index := by
  cases hr : books.ledger.oldest? handle.name handle.hook with
  | none =>
      rw [h.without_of_oldest?_none hhandle hr, Ledger.removeOldest, hr]
      simp
  | some r =>
      rw [h.removeOldest_eq_without hr]
      refine ⟨fun heq other hother => ?_, fun heq => by rw [heq r rfl]⟩
      cases hother
      by_contra hne
      -- The registration stays in one of the two ledgers, and is gone from the other.
      have hmem : r ∈ books.ledger.made handle.name := List.mem_of_find?_eq_some hr
      have hleft : r ∈ (books.ledger.made handle.name).filter (·.handle ≠ index) :=
        List.mem_filter.mpr ⟨hmem, decide_eq_true hne⟩
      have hkept : (handle.name, (books.ledger.made handle.name).filter (·.handle ≠ index)) ∈
          books.ledger.without index := by
        refine List.mem_filter.mpr ⟨List.mem_map.mpr ⟨_, Ledger.mem_of_mem_made hmem, rfl⟩, ?_⟩
        simpa using ⟨r, hmem, hne⟩
      rw [← heq, Ledger.without, List.mem_filter, List.mem_map] at hkept
      obtain ⟨⟨entry, -, hentry⟩, -⟩ := hkept
      have hgone : r ∈ entry.2.filter (·.handle ≠ r.handle) := by
        rw [Prod.mk.injEq] at hentry
        rw [hentry.2]
        exact hleft
      simp at hgone

end Books.Sound

/-! ### Books beside a monitor -/

/-- The books have the handles of a monitor, and its registry once numbers are forgotten. -/
structure Tracks (monitor : Monitor) (books : Books) : Prop where
  handles : monitor.handles = books.handles
  registry : monitor.registry = books.ledger.registry

namespace Tracks

variable {monitor : Monitor} {books : Books}

theorem register (h : Tracks monitor books) (name : String) (hook : Id) :
    Tracks (monitor.register name hook) (books.perform (.register name hook)) where
  handles := by rw [Monitor.register, Books.perform, h.handles]
  registry := by rw [Monitor.register, Books.perform, h.registry, Ledger.registry_add]

theorem unregister (h : Tracks monitor books) (name : String) (hook : Id) :
    Tracks (monitor.unregister name hook) (books.perform (.unregister name hook)) where
  handles := h.handles
  registry := by rw [Monitor.unregister, Books.perform, h.registry, Ledger.registry_removeOldest]

theorem close (h : Tracks monitor books) (index : Nat) :
    Tracks (monitor.close index) (books.perform (.close index)) := by
  rw [Monitor.close, Books.perform, ← h.handles]
  cases hhandle : monitor.handles[index]? with
  | none => exact h
  | some handle =>
      dsimp only
      rw [Handle.close]
      by_cases hclosed : handle.closed
      · rw [if_pos hclosed, if_pos hclosed]
        have hsame : monitor.handles.set index handle = monitor.handles := by
          obtain ⟨hlt, rfl⟩ := List.getElem?_eq_some_iff.mp hhandle
          exact List.set_getElem_self hlt
        exact ⟨by rw [hsame]; exact h.handles, h.registry⟩
      · rw [if_neg hclosed, if_neg hclosed]
        exact ⟨rfl, by rw [h.registry, Ledger.registry_removeOldest]⟩

theorem perform (h : Tracks monitor books) (action : Action) :
    Tracks (monitor.perform action) (books.perform action.operation) := by
  cases action with
  | register name hook => exact h.register name hook
  | unregister name hook => exact h.unregister name hook

theorem performAll (h : Tracks monitor books) (actions : List Action) :
    Tracks (actions.foldl Monitor.perform monitor)
      ((actions.map Action.operation).foldl Books.perform books) := by
  induction actions generalizing monitor books with
  | nil => exact h
  | cons action rest ih => exact ih (h.perform action)

/-- A call changes the registry by what the hook does, and the calls and the log beside it. -/
theorem call (h : Tracks monitor books) (behaviour : Behaviour) (event : Event) (hook : Id) :
    Tracks (monitor.call behaviour event hook).2
      (((behaviour hook event monitor).actions.map Action.operation).foldl Books.perform
        books) := by
  have hcalled : Tracks { monitor with calls := monitor.calls ++ [⟨hook, event⟩] } books :=
    ⟨h.handles, h.registry⟩
  have hchanged := hcalled.performAll (behaviour hook event monitor).actions
  rw [Monitor.call]
  split
  · exact ⟨hchanged.handles, hchanged.registry⟩
  · exact hchanged

theorem callAll (h : Tracks monitor books) (behaviour : Behaviour) (event : Event)
    (hooks : List Id) :
    Tracks (monitor.callAll behaviour event hooks).2
      ((monitor.callOperations behaviour event hooks).foldl Books.perform books) := by
  induction hooks generalizing monitor books with
  | nil => exact h
  | cons hook rest ih =>
      rw [Monitor.callAll, Monitor.callOperations, List.foldl_append]
      exact ih (h.call behaviour event hook)

/-- Every step keeps the books up to date. -/
theorem take (h : Tracks monitor books) (behaviour : Behaviour) (step : Step) :
    Tracks (monitor.take behaviour step)
      ((monitor.operations behaviour step).foldl Books.perform books) := by
  cases step with
  | register name hook => exact h.register name hook
  | unregister name hook => exact h.unregister name hook
  | close index => exact h.close index
  | dispatch name payload =>
      rw [Monitor.take, Monitor.dispatch, Monitor.operations]
      cases payload.toEntries with
      | error e => exact h
      | ok payload => exact h.callAll behaviour ⟨name, payload⟩ _

end Tracks

namespace Trail

variable (behaviour : Behaviour)

/-- A run leads to sound books that are up to date. -/
theorem sound_after (steps : List Step) :
    Tracks (after behaviour steps).monitor (after behaviour steps).books ∧
      (after behaviour steps).books.Sound := by
  rw [after]
  have hstart : Tracks ({} : Trail).monitor ({} : Trail).books ∧ ({} : Trail).books.Sound := by
    refine ⟨⟨rfl, rfl⟩, ⟨List.nodup_nil, ?_, ?_, ?_⟩⟩ <;> exact fun entry h => nomatch h
  generalize ({} : Trail) = trail at hstart
  induction steps generalizing trail with
  | nil => exact hstart
  | cons step rest ih =>
      exact ih (trail.take behaviour step)
        ⟨hstart.1.take behaviour step, Books.sound_foldl hstart.2 _⟩

theorem monitor_after (steps : List Step) :
    (after behaviour steps).monitor = steps.foldl (Monitor.take behaviour) {} := by
  have hfoldl (trail : Trail) : (steps.foldl (take behaviour) trail).monitor =
      steps.foldl (Monitor.take behaviour) trail.monitor := by
    induction steps generalizing trail with
    | nil => rfl
    | cons step rest ih => exact ih _
  exact hfoldl {}

theorem after_append_close (steps : List Step) (index : Nat) :
    (after behaviour (steps ++ [.close index])).books =
      (after behaviour steps).books.perform (.close index) := by
  rw [after, List.foldl_append]
  rfl

end Trail

/-! ### Registering and taking back at once -/

/-- Moving the first `a` of a list behind its end changes nothing exactly if only `a` follows it. -/
theorem erase_append_singleton_eq_iff {α : Type} [DecidableEq α] (l : List α) (a : α) :
    (l ++ [a]).erase a = l ↔ ∀ b ∈ l.dropWhile (· ≠ a), b = a := by
  induction l with
  | nil => simp
  | cons first rest ih =>
      by_cases hfirst : first = a
      · subst hfirst
        have hrotate : rest ++ [first] = first :: rest ↔ ∀ b ∈ rest, b = first := by
          clear ih
          induction rest with
          | nil => simp
          | cons second others ih =>
              rw [List.cons_append, List.cons.injEq, List.forall_mem_cons]
              refine and_congr_right fun heq => ?_
              rw [heq, ih]
        rw [List.cons_append, List.erase_cons_head, hrotate]
        simp
      · rw [List.cons_append, List.erase_cons_tail (by simpa using hfirst), List.cons.injEq,
          List.dropWhile_cons_of_pos (by simpa using hfirst), ← ih]
        exact and_iff_right rfl

namespace Registry

theorem hooks_insert (registry : Registry) (name : String) (hooks : List Id) :
    Registry.hooks (registry.insert name hooks) name = hooks := by
  rw [Registry.hooks, Entries.get?_insert]
  simp

theorem insert_hooks {registry : Registry} {name : String} (h : name ∈ registry.keys) :
    registry.insert name (registry.hooks name) = registry := by
  have hfound : registry.get? name ≠ none := fun hnone => Entries.get?_eq_none_iff.mp hnone h
  obtain ⟨hooks, hhooks⟩ := Option.ne_none_iff_exists'.mp hfound
  rw [Registry.hooks, hhooks]
  exact Entries.insert_eq_self hhooks

/-- A hook that is registered and taken back at once leaves the registry as it was, unless another
hook stands behind an older registration of it. -/
theorem remove_add_eq_iff {registry : Registry} (hne : ∀ entry ∈ registry, entry.2 ≠ [])
    (name : String) (hook : Id) :
    (registry.add name hook).remove name hook = registry ↔
      ∀ other ∈ (registry.hooks name).dropWhile (· ≠ hook), other = hook := by
  have hhooks : (registry.add name hook).hooks name = registry.hooks name ++ [hook] :=
    hooks_insert registry name _
  rw [Registry.remove, hhooks, if_pos (by simp), ← erase_append_singleton_eq_iff]
  by_cases hname : name ∈ registry.keys
  · have hlist : registry.hooks name ≠ [] := by
      obtain ⟨entry, hentry, rfl⟩ := List.mem_map.mp hname
      rw [Registry.hooks]
      cases hget : registry.get? entry.1 with
      | none => exact absurd (Entries.mem_keys_of_mem hentry) (Entries.get?_eq_none_iff.mp hget)
      | some hooks => exact hne _ (Entries.mem_of_get? hget)
    have hlength : ((registry.hooks name ++ [hook]).erase hook).length =
        (registry.hooks name).length := by
      simp [List.length_erase_of_mem]
    cases herase : (registry.hooks name ++ [hook]).erase hook with
    | nil =>
        rw [herase] at hlength
        exact absurd (List.length_eq_zero_iff.mp hlength.symm) hlist
    | cons first rest =>
        dsimp only
        rw [Registry.add, Entries.insert_insert]
        constructor
        · intro heq
          rw [← hooks_insert registry name (first :: rest), heq]
        · intro heq
          rw [heq, insert_hooks hname]
  · -- The event was not known, and is forgotten again.
    have hnil : registry.hooks name = [] := by
      rw [Registry.hooks, Entries.get?_eq_none_iff.mpr hname]
      rfl
    have hadd : registry.add name hook = registry ++ [(name, [hook])] := by
      rw [Registry.add, hnil]
      exact Entries.insert_eq_append _ hname
    have hself := Entries.erase_eq_self hname
    rw [Entries.erase] at hself
    simp [hnil, hadd, Entries.erase, hself]

end Registry

end Hook

open Hook

/-- **What closing a handle takes back.** After every run of registrations, closed handles, removed
hooks and told events, let the ledger number the registrations of the registry by their handles.
Closing a handle takes back at most one registration, the oldest one of its hook for its event, and
a closed handle takes back none. An open handle takes back its own registration if it is left, and
no other, exactly if no other registration of its hook for its event is older. Registering a hook
around nothing leaves the registry as it was exactly if no other hook stands behind an older
registration of it. -/
theorem Monitor.close_own_iff (behaviour : Behaviour) (steps : List Step) :
    let monitor := steps.foldl (Monitor.take behaviour) {}
    let ledger := (Trail.after behaviour steps).books.ledger
    ledger.registry = monitor.registry ∧
    (∀ index handle, monitor.handles[index]? = some handle →
      let left := (Trail.after behaviour (steps ++ [.close index])).books.ledger
      left.registry = (monitor.close index).registry ∧
      (handle.closed = true → left = ledger) ∧
      (handle.closed = false →
        (ledger.oldest? handle.name handle.hook = none → left = ledger) ∧
        (∀ r, ledger.oldest? handle.name handle.hook = some r → left = ledger.without r.handle) ∧
        (left = ledger.without index ↔
          ∀ r, ledger.oldest? handle.name handle.hook = some r → r.handle = index))) ∧
    ∀ name hook,
      (monitor.during name hook fun m => ((), m)).2.registry = monitor.registry ↔
        ∀ other ∈ (monitor.registry.hooks name).dropWhile (· ≠ hook), other = hook := by
  intro monitor ledger
  obtain ⟨htracks, hsound⟩ := Trail.sound_after behaviour steps
  rw [Trail.monitor_after] at htracks
  refine ⟨htracks.registry.symm, fun index handle hhandle => ?_, fun name hook => ?_⟩
  · intro left
    have hbooks : (Trail.after behaviour steps).books.handles[index]? = some handle :=
      htracks.handles ▸ hhandle
    have hleft : left = if handle.closed then ledger
        else ledger.removeOldest handle.name handle.hook := by
      simp only [left, Trail.after_append_close, Books.perform, hbooks]
      split <;> rfl
    refine ⟨?_, fun hclosed => ?_, fun hopen => ⟨fun hnone => ?_, fun r hr => ?_, ?_⟩⟩
    · have hclose := (htracks.close index).registry
      rw [← Trail.after_append_close] at hclose
      exact hclose.symm
    · rw [hleft, if_pos hclosed]
    · rw [hleft, hopen, Ledger.removeOldest, hnone]
      rfl
    · rw [hleft, hopen]
      exact hsound.removeOldest_eq_without hr
    · rw [hleft, hopen]
      exact hsound.removeOldest_eq_without_iff hbooks
  · have hne : ∀ entry ∈ monitor.registry, entry.2 ≠ [] := by
      rw [htracks.registry]
      intro entry hentry
      obtain ⟨original, horiginal, rfl⟩ := List.mem_map.mp hentry
      simpa using hsound.nonempty original horiginal
    exact Registry.remove_add_eq_iff hne name hook

/-- Hooks that only listen. -/
def Hook.quiet : Behaviour := fun _ _ _ => {}

/-- Two hooks are registered for one event, the first of them twice, and the first handle is closed.
-/
def Hook.reopened : List Step :=
  [.register "saved" "count", .register "saved" "log", .close 0, .register "saved" "count"]

theorem Monitor.close_own_iff_reopened :
    let monitor := reopened.foldl (Monitor.take quiet) {}
    let ledger := (Trail.after quiet reopened).books.ledger
    let left := (Trail.after quiet (reopened ++ [.close 2])).books.ledger
    monitor.registry = [("saved", ["log", "count"])] ∧
      monitor.handles[0]? = some ⟨"saved", "count", true⟩ ∧
      (Trail.after quiet (reopened ++ [.close 0])).books.ledger = ledger ∧
      monitor.handles[2]? = some ⟨"saved", "count", false⟩ ∧
      ledger.oldest? "saved" "count" = some ⟨"count", 2⟩ ∧
      left = ledger.without 2 ∧ left.registry = [("saved", ["log"])] ∧
      (monitor.during "saved" "count" fun m => ((), m)).2.registry = monitor.registry := by
  intro monitor ledger left
  obtain ⟨-, hclose, hduring⟩ := Monitor.close_own_iff quiet reopened
  have hzero : monitor.handles[0]? = some ⟨"saved", "count", true⟩ := by rfl
  have htwo : monitor.handles[2]? = some ⟨"saved", "count", false⟩ := by rfl
  have holdest : ledger.oldest? "saved" "count" = some ⟨"count", 2⟩ := by rfl
  refine ⟨by rfl, hzero, (hclose 0 _ hzero).2.1 rfl, htwo, holdest, ?_, by rfl, ?_⟩
  · refine ((hclose 2 _ htwo).2.2 rfl).2.2.mpr fun r hr => ?_
    cases holdest.symm.trans hr
    rfl
  · exact (hduring "saved" "count").mpr (by decide)

/-- **Handles do not own their registrations.** A handle can take back an older registration than
its own, which changes the order of the others, also if it is closed at once; and it can take back a
younger one, after its own has been removed. -/
theorem Monitor.close_takes_other :
    let run := fun steps : List Step => steps.foldl (Monitor.take quiet) {}
    let ledger := fun steps : List Step => (Trail.after quiet steps).books.ledger
    let older : List Step :=
      [.register "saved" "count", .register "saved" "log", .register "saved" "count"]
    let younger : List Step :=
      [.register "saved" "count", .unregister "saved" "count", .register "saved" "count"]
    ((run older).close 2).registry = [("saved", ["log", "count"])] ∧
      ((ledger older).without 2).registry = [("saved", ["count", "log"])] ∧
      ((run (older.take 2)).during "saved" "count" fun m => ((), m)).2.registry =
        [("saved", ["log", "count"])] ∧
      (run (older.take 2)).registry = [("saved", ["count", "log"])] ∧
      ((run younger).close 0).registry = [] ∧
      ((ledger younger).without 0).registry = [("saved", ["count"])] := by
  intro run ledger older younger
  exact ⟨rfl, rfl, rfl, rfl, rfl, rfl⟩

end PfaScript
