import PfaScript.Proofs.Merging

/-!
# Merged mappings along paths

A path of keys leads into nested mappings (`Setting.at?`), as far as nothing else than a mapping
blocks it (`Setting.blocks`). `Setting.at?_replacement` says what a path finds in a setting that
took another one's place: what the new one has there, merged with what it covers, and otherwise what
was there, if the new one does not block the path. The law of merging is read off that
(`Setting.merge_paths`), together with the order of the keys (`Setting.keys_merge`) and the fact
that the same mapping laid over twice changes nothing more (`Setting.replacement_idem`).
-/

namespace PfaScript

/-! ### Entries -/

namespace Entries

variable {κ α : Type} [BEq κ]

/-- Of distinct keys each finds its own value. -/
theorem Distinct.get?_of_mem [EquivBEq κ] {entries : Entries κ α} (h : entries.Distinct)
    {key : κ} {value : α} (hmem : (key, value) ∈ entries) : entries.get? key = some value := by
  induction entries with
  | nil => cases hmem
  | cons head rest ih =>
      obtain ⟨hne, hrest⟩ := List.pairwise_cons.mp h
      rw [get?]
      rcases List.mem_cons.mp hmem with rfl | hmem
      · exact if_pos BEq.rfl
      · rw [hne _ hmem]
        exact ih hrest hmem

end Entries

namespace Setting

/-! ### Paths -/

/-- What a path of keys leads to. -/
def at? (setting : Setting) : List Key → Option Setting
  | [] => some setting
  | key :: path =>
    match setting with
    | .map entries => (Entries.get? entries key).bind (·.at? path)
    | _ => none

/-- Whether something else than a mapping stands in the way of a path. -/
def blocks (setting : Setting) : List Key → Bool
  | [] => false
  | key :: path =>
    match setting with
    | .map entries => (Entries.get? entries key).any (·.blocks path)
    | _ => true

@[simp] theorem at?_nil (setting : Setting) : setting.at? [] = some setting := rfl

@[simp] theorem at?_map_cons (entries : Entries Key Setting) (key : Key) (path : List Key) :
    (map entries).at? (key :: path) = (entries.get? key).bind (·.at? path) := rfl

@[simp] theorem blocks_map_cons (entries : Entries Key Setting) (key : Key) (path : List Key) :
    (map entries).blocks (key :: path) = (entries.get? key).any (·.blocks path) := rfl

theorem exists_of_isMap {setting : Setting} (h : setting.isMap = true) :
    ∃ entries : Entries Key Setting, setting = .map entries := by
  cases setting with
  | map entries => exact ⟨entries, rfl⟩
  | _ => cases h

/-- Nothing lies beyond what is no mapping. -/
theorem at?_cons_of_not_map {setting : Setting} (h : setting.isMap = false) (key : Key)
    (path : List Key) : setting.at? (key :: path) = none := by
  cases setting with
  | map entries => cases h
  | _ => rfl

theorem blocks_cons_of_not_map {setting : Setting} (h : setting.isMap = false) (key : Key)
    (path : List Key) : setting.blocks (key :: path) = true := by
  cases setting with
  | map entries => cases h
  | _ => rfl

/-- A path is blocked exactly if a proper beginning of it leads to what is no mapping. -/
theorem blocks_iff (setting : Setting) (path : List Key) :
    setting.blocks path = true ↔ ∃ front, front <+: path ∧ front ≠ path ∧
      ∃ bound, setting.at? front = some bound ∧ bound.isMap = false := by
  induction path generalizing setting with
  | nil =>
      constructor
      · intro h
        cases h
      · rintro ⟨front, hfront, hne, -⟩
        exact absurd (List.prefix_nil.mp hfront) hne
  | cons key path ih =>
      cases hmap : setting.isMap with
      | false =>
          rw [blocks_cons_of_not_map hmap]
          exact ⟨fun _ => ⟨[], List.nil_prefix, (List.cons_ne_nil _ _).symm, setting, rfl, hmap⟩,
            fun _ => rfl⟩
      | true =>
          obtain ⟨entries, rfl⟩ := exists_of_isMap hmap
          rw [blocks_map_cons, Option.any_eq_true]
          constructor
          · rintro ⟨inner, hinner, hblocks⟩
            obtain ⟨front, hfront, hne, bound, hbound, hflat⟩ := (ih inner).mp hblocks
            refine ⟨key :: front, List.cons_prefix_cons.mpr ⟨rfl, hfront⟩,
              fun h => hne (List.cons.inj h).2, bound, ?_, hflat⟩
            rw [at?_map_cons, hinner, Option.bind_some, hbound]
          · rintro ⟨front, hfront, hne, bound, hbound, hflat⟩
            cases front with
            | nil =>
                cases hbound
                cases hflat
            | cons k front =>
                obtain ⟨rfl, hrest⟩ := List.cons_prefix_cons.mp hfront
                obtain ⟨inner, hinner, hbound⟩ := Option.bind_eq_some_iff.mp hbound
                exact ⟨inner, hinner, (ih inner).mpr
                  ⟨front, hrest, fun h => hne (congrArg (k :: ·) h), bound, hbound, hflat⟩⟩

/-! ### Settings that are laid over others -/

/-- In every mapping of a setting, down to the innermost, the keys are distinct. -/
inductive Keyed : Setting → Prop
  | map {entries : Entries Key Setting} (distinct : entries.Distinct)
      (inner : ∀ entry ∈ entries, Keyed entry.2) : Keyed (.map entries)
  | other {setting : Setting} (h : setting.isMap = false) : Keyed setting

theorem Keyed.distinct {entries : Entries Key Setting} (h : (Setting.map entries).Keyed) :
    entries.Distinct := by
  cases h with
  | map distinct _ => exact distinct
  | other hflat => cases hflat

/-- What a path leads to has distinct keys as well. -/
theorem Keyed.of_at? {setting found : Setting} (h : setting.Keyed) {path : List Key}
    (hfound : setting.at? path = some found) : found.Keyed := by
  induction path generalizing setting with
  | nil =>
      cases hfound
      exact h
  | cons key path ih =>
      cases h with
      | other hflat =>
          rw [at?_cons_of_not_map hflat] at hfound
          cases hfound
      | map _ inner =>
          obtain ⟨next, hnext, hfound⟩ := Option.bind_eq_some_iff.mp hfound
          obtain ⟨k, hmem, -⟩ := Entries.exists_mem_of_get? hnext
          exact ih (inner _ hmem) hfound

/-- In the place of nothing a setting is as it is. -/
@[simp] theorem replacement_none (value : Setting) : replacement none value = value := by
  cases value <;> rfl

/-- What a path finds after a setting took the place of an old one. -/
theorem at?_replacement {value : Setting} (h : value.Keyed) (old : Option Setting)
    (path : List Key) :
    (replacement old value).at? path =
      (value.at? path).elim (if value.blocks path then none else old.bind (·.at? path)) fun new =>
        some (replacement (old.bind (·.at? path)) new) := by
  induction path generalizing old value with
  | nil => simp
  | cons key path ih =>
      cases h with
      | other hflat =>
          rw [replacement_eq_self hflat, at?_cons_of_not_map hflat, blocks_cons_of_not_map hflat]
          rfl
      | @map changes distinct inner =>
          -- Only an old mapping lets anything of the old setting be seen.
          have hnone (blocked : Bool) (found : Option Setting) :
              found = found.elim (if blocked then none else none) fun new =>
                some (replacement none new) := by
            rw [ite_self]
            cases found <;> simp
          rcases old with _ | old
          · rw [replacement_none]
            exact hnone _ _
          cases hmap : old.isMap with
          | false =>
              rw [Option.bind_some, at?_cons_of_not_map hmap]
              refine Eq.trans ?_ (hnone _ _)
              cases old with
              | map entries => cases hmap
              | _ => rfl
          | true =>
              obtain ⟨entries, rfl⟩ := exists_of_isMap hmap
              rw [replacement, at?_map_cons, get?_merge distinct, at?_map_cons, blocks_map_cons,
                Option.bind_some, at?_map_cons]
              cases hchange : changes.get? key with
              | none => rfl
              | some change =>
                  obtain ⟨found, hfound, -⟩ := Entries.exists_mem_of_get? hchange
                  exact ih (inner _ hfound) (entries.get? key)

/-- A mapping that is laid over another one adds its new keys at the end. -/
theorem keys_merge {changes : Entries Key Setting} (h : changes.Distinct)
    (base : Entries Key Setting) :
    (merge base changes).keys = base.keys ++ changes.keys.filter (!base.contains ·) := by
  induction changes generalizing base with
  | nil => exact (List.append_nil _).symm
  | cons change rest ih =>
      obtain ⟨key, value⟩ := change
      obtain ⟨hne, hrest⟩ := List.pairwise_cons.mp h
      rw [merge, ih hrest, Entries.keys_insert_eq, Entries.keys_cons, List.filter_cons,
        List.append_assoc]
      -- The keys that follow are others, so it does not matter to them that this one was added.
      have hfilter (bound : Setting) :
          (Entries.keys rest).filter (!(base.insert key bound).contains ·) =
            (Entries.keys rest).filter (!base.contains ·) := by
        refine List.filter_congr fun other hother => ?_
        obtain ⟨entry, hentry, rfl⟩ := List.mem_map.mp hother
        rw [Entries.contains_eq_isSome, Entries.get?_insert, hne entry hentry,
          Entries.contains_eq_isSome]
        rfl
      rw [hfilter]
      cases base.contains key <;> rfl

/-- A mapping that has each setting merged in is not changed by merging. -/
theorem merge_eq_self {base changes : Entries Key Setting}
    (h : ∀ entry ∈ changes, ∃ bound,
      base.get? entry.1 = some bound ∧ replacement (some bound) entry.2 = bound) :
    merge base changes = base := by
  induction changes with
  | nil => rfl
  | cons change rest ih =>
      obtain ⟨bound, hbound, hmerged⟩ := h change List.mem_cons_self
      rw [merge, hbound, hmerged, Entries.insert_eq_self hbound]
      exact ih fun entry hentry => h entry (List.mem_cons_of_mem _ hentry)

/-- To take the place of the result of having taken the place changes nothing. -/
theorem replacement_idem {value : Setting} (h : value.Keyed) (old : Option Setting) :
    replacement (some (replacement old value)) value = replacement old value := by
  induction h generalizing old with
  | other hflat => rw [replacement_eq_self hflat, replacement_eq_self hflat]
  | @map changes distinct inner ih =>
      have hself : merge changes changes = changes := by
        refine merge_eq_self fun entry hentry => ⟨entry.2, distinct.get?_of_mem hentry, ?_⟩
        simpa using ih entry hentry none
      have htwice (base : Entries Key Setting) :
          merge (merge base changes) changes = merge base changes := by
        refine merge_eq_self fun entry hentry => ⟨_, ?_, ih entry hentry (base.get? entry.1)⟩
        rw [get?_merge distinct, distinct.get?_of_mem hentry]
        rfl
      rcases old with _ | old
      · exact congrArg map hself
      cases old with
      | map entries => exact congrArg map (htwice entries)
      | _ => exact congrArg map hself

/-- **Merging is right-biased.** Along every path, what the mapping laid over has there and is no
mapping is found, what the one below has is found if the other one has nothing there and does not
block the path, and nothing else is found. Where two mappings meet, the keys of the one below come
first, in its order, and then the new ones, in theirs. To lay the same mapping over once more
changes nothing. -/
theorem merge_paths (base : Entries Key Setting) {changes : Entries Key Setting}
    (h : (map changes).Keyed) :
    (∀ path value, (map changes).at? path = some value → value.isMap = false →
      (map (merge base changes)).at? path = some value) ∧
    (∀ path value, (map base).at? path = some value → (map changes).at? path = none →
      (∀ front, front <+: path → front ≠ path → ∀ bound, (map changes).at? front = some bound →
        bound.isMap = true) →
      (map (merge base changes)).at? path = some value) ∧
    (∀ path, ((map (merge base changes)).at? path).isSome →
      ((map base).at? path).isSome ∨ ((map changes).at? path).isSome) ∧
    (∀ path below above, (map base).at? path = some (map below) →
      (map changes).at? path = some (map above) → ∃ level,
        (map (merge base changes)).at? path = some (map level) ∧
        Entries.keys level =
          Entries.keys below ++ (Entries.keys above).filter (!Entries.contains below ·)) ∧
    merge (merge base changes) changes = merge base changes := by
  have hat := at?_replacement h (some (map base))
  simp only [replacement, Option.bind_some] at hat
  refine ⟨fun path value hvalue hflat => ?_, fun path value hvalue hnone hfree => ?_,
    fun path hsome => ?_, fun path below above hbelow habove => ?_, ?_⟩
  · rw [hat, hvalue, Option.elim_some, replacement_eq_self hflat]
  · have hopen : (map changes).blocks path = false := by
      rw [Bool.eq_false_iff, Ne, blocks_iff]
      rintro ⟨front, hfront, hne, bound, hbound, hflat⟩
      rw [hfree front hfront hne bound hbound] at hflat
      cases hflat
    rw [hat, hnone, Option.elim_none, hopen, ← hvalue]
    rfl
  · rw [hat] at hsome
    cases hchange : (map changes).at? path with
    | some value => exact .inr rfl
    | none =>
        rw [hchange, Option.elim_none] at hsome
        split at hsome
        · cases hsome
        · exact .inl hsome
  · have hdistinct := (h.of_at? habove).distinct
    rw [hat, habove, hbelow]
    exact ⟨merge below above, rfl, keys_merge hdistinct below⟩
  · exact map.inj (replacement_idem h (some (map base)))

theorem merge_paths_nested :
    let base := [(.str "output", map [(.str "indent", .int 2), (.str "format", .str "json")])]
    let changes := [(.str "output", map [(.str "sort_keys", .bool true), (.str "indent", .null)])]
    (map (merge base changes)).at? [.str "output", .str "indent"] = some .null ∧
    (map (merge base changes)).at? [.str "output", .str "format"] = some (.str "json") ∧
    ((map base).at? [.str "output", .str "sort_keys"]).isSome = false ∧
    ((map changes).at? [.str "output", .str "sort_keys"]).isSome ∧
    (∃ level, (map (merge base changes)).at? [.str "output"] = some (map level) ∧
      Entries.keys level = [.str "indent", .str "format", .str "sort_keys"]) ∧
    merge (merge base changes) changes = merge base changes := by
  intro base changes
  have hkeyed : (map changes).Keyed := by
    refine .map (by decide) fun entry hentry => ?_
    rw [List.mem_singleton.mp hentry]
    refine .map (by decide) fun entry hentry => .other ?_
    rcases List.mem_pair.mp hentry with rfl | rfl <;> rfl
  obtain ⟨hover, hunder, hwhence, hkeys, hidem⟩ := merge_paths base hkeyed
  have hnew := hwhence [.str "output", .str "sort_keys"] (by decide)
  have hlevel := hkeys [.str "output"] _ _ rfl rfl
  refine ⟨hover _ _ rfl rfl, hunder _ _ rfl rfl fun front hfront hne bound hbound => ?_, by decide,
    hnew.resolve_left (by decide), hlevel, hidem⟩
  by_contra hflat
  have hblocks := (blocks_iff _ _).mpr
    ⟨front, hfront, hne, bound, hbound, Bool.eq_false_iff.mpr hflat⟩
  exact absurd hblocks (by decide)

end Setting

end PfaScript
