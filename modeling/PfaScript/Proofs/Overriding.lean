import PfaScript.Proofs.Configuring
import PfaScript.Proofs.MergedPaths

/-!
# Overrides one by one

An override writes a value at the end of a path (`Override.Writes`). To assign the value there is to
lay the mapping with that one path over the others (`Override.assign_eq_merge`), as long as nothing
blocks the path. So overrides read together are the mappings of each laid over one another, and
reading fails only where a path is blocked by what the overrides before it left
(`Override.readAll_merges`).
-/

namespace PfaScript

namespace Override

/-! ### One override -/

/-- A value at the end of a path of names. -/
structure Binding where
  path : List String
  value : Setting

/-- The mapping with nothing but a value at the end of a path. -/
def single (value : Setting) : List String → Entries Key Setting
  | [] => []
  | [name] => [(.str name, value)]
  | name :: rest => [(.str name, .map (single value rest))]

/-- The item is a key, an equals sign and a text; the key has a name in it, and the text denotes
something that is no mapping. -/
inductive Writes : String → Binding → Prop
  | item {key text : String} {value : Setting} (hkey : '=' ∉ key.toList) (hpath : path key ≠ [])
      (hvalue : Setting.ofText text = .ok value) (hflat : value.isMap = false) :
      Writes (key ++ "=" ++ text) ⟨path key, value⟩

/-- The key ends at the first equals sign. -/
theorem split?_append {key : List Char} (h : '=' ∉ key) (text : List Char) :
    split? (key ++ '=' :: text) = some (key, text) := by
  induction key with
  | nil => rfl
  | cons c key ih =>
      obtain ⟨hc, hkey⟩ : '=' ≠ c ∧ '=' ∉ key := by simpa using h
      rw [List.cons_append, split?, ih hkey]
      · rfl
      · exact Ne.symm hc

/-- An override is in conflict exactly if its path is blocked. -/
theorem isBlocked_eq (entries : Entries Key Setting) (names : List String) :
    isBlocked entries names = (Setting.map entries).blocks (names.map .str) := by
  induction names generalizing entries with
  | nil => rfl
  | cons name rest ih =>
      rw [List.map_cons, Setting.blocks_map_cons]
      cases rest with
      | nil => cases entries.get? (.str name) <;> rfl
      | cons next rest =>
          rw [isBlocked]
          cases entries.get? (.str name) with
          | none => rfl
          | some bound =>
              cases bound with
              | map inner => exact ih inner
              | _ => rfl
          · exact List.cons_ne_nil _ _

theorem merge_nil_single (value : Setting) (names : List String) :
    Setting.merge [] (single value names) = single value names := by
  rcases names with _ | ⟨name, _ | ⟨next, rest⟩⟩
  · rfl
  · exact congrArg (fun value => [(Key.str name, value)]) (Setting.replacement_none value)
  · rfl

/-- To assign a value at the end of a path that is not blocked is to lay the mapping with that path
over the others. -/
theorem assign_eq_merge {value : Setting} (hflat : value.isMap = false)
    {entries : Entries Key Setting} {names : List String} (h : isBlocked entries names = false) :
    assign value entries names = Setting.merge entries (single value names) := by
  induction names generalizing entries with
  | nil => rfl
  | cons name rest ih =>
      cases rest with
      | nil =>
          rw [assign, single, Setting.merge, Setting.replacement_eq_self hflat]
          rfl
      | cons next rest =>
          rw [isBlocked] at h
          rw [assign, single, Setting.merge, Setting.merge]
          cases hbound : entries.get? (.str name) with
          | none =>
              have hnew : assign value [] (next :: rest) = single value (next :: rest) := by
                rw [ih (by cases rest <;> rfl), merge_nil_single]
              simp only [hnew]
              rfl
          | some bound =>
              rw [hbound] at h
              cases bound with
              | map inner =>
                  simp only [ih h]
                  rfl
              | _ => cases h
          all_goals exact List.cons_ne_nil _ _

/-- What one more override does. -/
theorem Writes.add_eq {item : String} {binding : Binding} (h : Writes item binding)
    (entries : Entries Key Setting) :
    ∃ key, add entries item = if (Setting.map entries).blocks (binding.path.map .str)
      then .error (.conflict key)
      else .ok (Setting.merge entries (single binding.value binding.path)) := by
  cases h with
  | @item key text value hkey hpath hvalue hflat =>
      refine ⟨key, ?_⟩
      have hsplit : split? (key ++ "=" ++ text).toList = some (key.toList, text.toList) := by
        rw [String.toList_append, String.toList_append, List.append_assoc]
        exact split?_append hkey text.toList
      have hnames : (path key).isEmpty = false := by simpa using hpath
      rw [add, hsplit]
      simp only [String.ofList_toList, hnames, Bool.false_eq_true, if_false, hvalue, ← isBlocked_eq]
      split
      · rfl
      · rw [← assign_eq_merge hflat (Bool.eq_false_iff.mpr ‹_›)]
        rfl

/-! ### Overrides together -/

/-- What overrides make together is what they make laid over one another. -/
theorem foldlM_add_eq {items : List String} {bindings : List Binding}
    (h : List.Forall₂ Writes items bindings) {start entries : Entries Key Setting}
    (hread : items.foldlM add start = .ok entries) :
    entries = bindings.foldl
      (fun entries binding => Setting.merge entries (single binding.value binding.path)) start := by
  induction h generalizing start with
  | nil => exact (Except.ok.inj hread).symm
  | cons hitem _ ih =>
      rw [List.foldlM_cons] at hread
      obtain ⟨next, hnext, hrest⟩ := bind_eq_ok_iff.mp hread
      obtain ⟨key, hadd⟩ := hitem.add_eq start
      rw [hadd] at hnext
      split at hnext
      · cases hnext
      · rw [List.foldl_cons, Except.ok.inj hnext]
        exact ih hrest

/-- Overrides are read exactly if what those before it make blocks the path of none of them. -/
theorem foldlM_add_iff {items : List String} {bindings : List Binding}
    (h : List.Forall₂ Writes items bindings) (start : Entries Key Setting) :
    (∃ entries, items.foldlM add start = .ok entries) ↔
      ∀ n binding entries, bindings[n]? = some binding →
        (items.take n).foldlM add start = .ok entries →
        (Setting.map entries).blocks (binding.path.map .str) = false := by
  induction h generalizing start with
  | nil => simp [pure, Except.pure]
  | @cons item binding items bindings hitem _ ih =>
      obtain ⟨key, hadd⟩ := hitem.add_eq start
      rw [List.foldlM_cons, hadd]
      cases hblocks : (Setting.map start).blocks (binding.path.map .str) with
      | true =>
          refine ⟨fun hread => ?_, fun hfree => ?_⟩
          · obtain ⟨entries, hread⟩ := hread
            cases hread
          · rw [hfree 0 binding start rfl rfl] at hblocks
            cases hblocks
      | false =>
          rw [hblocks] at hadd
          refine (ih _).trans ⟨fun hfree n other entries hother hread => ?_,
            fun hfree n other entries hother hread => ?_⟩
          · cases n with
            | zero =>
                cases hother
                cases hread
                exact hblocks
            | succ n =>
                rw [List.take_succ_cons, List.foldlM_cons, hadd] at hread
                exact hfree n other entries hother hread
          · refine hfree (n + 1) other entries hother ?_
            rw [List.take_succ_cons, List.foldlM_cons, hadd]
            exact hread

/-- **Overrides read together are overrides laid over one another.** They are read exactly if no
path has a beginning that the overrides before it left bound to something else than a mapping, and
what is read then is, with the order of its keys, the mapping of each override laid over those
before it. -/
theorem readAll_merges {items : List String} {bindings : List Binding}
    (h : List.Forall₂ Writes items bindings) :
    ((∃ entries, readAll items = .ok entries) ↔
      ∀ n binding before, bindings[n]? = some binding → readAll (items.take n) = .ok before →
        ∀ front, front <+: binding.path.map Key.str → front ≠ [] →
          front ≠ binding.path.map Key.str →
          ∀ bound, (Setting.map before).at? front = some bound → bound.isMap = true) ∧
    ∀ entries, readAll items = .ok entries → entries = bindings.foldl
      (fun entries binding => Setting.merge entries (single binding.value binding.path)) [] := by
  refine ⟨(foldlM_add_iff h []).trans ?_, fun entries => foldlM_add_eq h⟩
  refine forall_congr' fun n => forall_congr' fun binding => forall_congr' fun before =>
    imp_congr_right fun _ => imp_congr_right fun _ => ?_
  rw [Bool.eq_false_iff, Ne, Setting.blocks_iff]
  constructor
  · intro hfree front hfront _ hne bound hbound
    by_contra hflat
    exact hfree ⟨front, hfront, hne, bound, hbound, Bool.eq_false_iff.mpr hflat⟩
  · rintro hmaps ⟨front, hfront, hne, bound, hbound, hflat⟩
    cases front with
    | nil =>
        cases hbound
        cases hflat
    | cons key front =>
        rw [hmaps _ hfront (List.cons_ne_nil _ _) hne bound hbound] at hflat
        cases hflat

theorem readAll_merges_output :
    (∃ entries, readAll ["output.indent=none", "output.sort_keys=true"] = .ok entries ∧
      entries = [(.str "output", .map [(.str "indent", .null), (.str "sort_keys", .bool true)])]) ∧
    ¬ ∃ entries, readAll ["output=none", "output.sort_keys=true"] = .ok entries := by
  have hnone : Setting.ofText "none" = .ok .null := by
    have hlower : Text.lower (String.ofList (Text.trim "none".toList)) = "none" := by decide
    rw [Setting.ofText, hlower]
    rfl
  have hindent : Writes "output.indent=none" ⟨["output", "indent"], .null⟩ :=
    @Writes.item "output.indent" "none" _ (by decide) (by decide) hnone rfl
  have houtput : Writes "output=none" ⟨["output"], .null⟩ :=
    @Writes.item "output" "none" _ (by decide) (by decide) hnone rfl
  have hsort : Writes "output.sort_keys=true" ⟨["output", "sort_keys"], .bool true⟩ :=
    @Writes.item "output.sort_keys" "true" _ (by decide) (by decide) Setting.ofText_true rfl
  constructor
  · obtain ⟨hiff, hmerged⟩ := readAll_merges (.cons hindent (.cons hsort .nil))
    refine Exists.imp (fun entries hread => ⟨hread, hmerged entries hread⟩) (hiff.mpr ?_)
    intro n binding before hbinding hbefore front hfront _ hne bound hbound
    by_contra hflat
    have hblocks := (Setting.blocks_iff _ _).mpr
      ⟨front, hfront, hne, bound, hbound, Bool.eq_false_iff.mpr hflat⟩
    rcases n with _ | _ | n
    · cases hbinding
      cases hbefore
      exact absurd hblocks (by decide)
    · cases hbinding
      rw [(readAll_merges (.cons hindent .nil)).2 before hbefore] at hblocks
      exact absurd hblocks (by decide)
    · cases hbinding
  · intro hread
    obtain ⟨key, hadd⟩ := houtput.add_eq []
    have hbefore : readAll ["output=none"] = .ok [(.str "output", .null)] := by
      rw [readAll, List.foldlM_cons, hadd]
      rfl
    have hmap := (readAll_merges (.cons houtput (.cons hsort .nil))).1.mp hread 1 _ _ rfl hbefore
      [.str "output"] ⟨[.str "sort_keys"], rfl⟩ (List.cons_ne_nil _ _) (by simp) .null rfl
    cases hmap

end Override

end PfaScript
