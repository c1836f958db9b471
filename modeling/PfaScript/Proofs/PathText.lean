import PfaScript.Disk.Path
import Mathlib.Data.List.Basic
import Mathlib.Tactic.Common

/-!
# Paths and their texts

A path that was read from a text is `Path.Plain`: its names are neither empty nor `.`, and there is
no slash in them. A plain path is read back from its text (`Path.Plain.ofText_toText`), so writing a
path and reading it again changes nothing, however it was written at first.
-/

namespace PfaScript

namespace Text

variable {mark : Char}

@[simp] theorem split_mark_cons (cs : List Char) :
    split mark (mark :: cs) = [] :: split mark cs := by
  rw [split, if_pos rfl]

/-- The mark is in no part. -/
theorem not_mem_of_mem_split {cs part : List Char} (h : part ∈ split mark cs) : mark ∉ part := by
  induction cs generalizing part with
  | nil =>
      rw [split, List.mem_singleton] at h
      rw [h]
      exact List.not_mem_nil
  | cons c rest ih =>
      rw [split] at h
      split at h
      · rcases List.mem_cons.mp h with rfl | h
        · exact List.not_mem_nil
        · exact ih h
      next hc =>
        split at h
        · rw [List.mem_singleton] at h
          rw [h, List.mem_singleton]
          exact Ne.symm hc
        next first others hsplit =>
          rw [hsplit] at ih
          rcases List.mem_cons.mp h with rfl | h
          · rw [List.mem_cons, not_or]
            exact ⟨Ne.symm hc, ih List.mem_cons_self⟩
          · exact ih (List.mem_cons_of_mem _ h)

/-- A text without the mark is one part. -/
theorem split_append {part : List Char} (h : mark ∉ part) (cs : List Char) :
    split mark (part ++ mark :: cs) = part :: split mark cs := by
  induction part with
  | nil => exact split_mark_cons cs
  | cons c rest ih =>
      rw [List.mem_cons, not_or] at h
      rw [List.cons_append, split, if_neg (Ne.symm h.1), ih h.2]

theorem split_eq_singleton {part : List Char} (h : mark ∉ part) : split mark part = [part] := by
  induction part with
  | nil => rfl
  | cons c rest ih =>
      rw [List.mem_cons, not_or] at h
      rw [split, if_neg (Ne.symm h.1), ih h.2]

/-- Parts without the mark are found again when they are put together with it between them. -/
theorem split_intercalate : {parts : List (List Char)} → parts ≠ [] →
    (∀ part ∈ parts, mark ∉ part) → split mark ([mark].intercalate parts) = parts
  | [], hne, _ => absurd rfl hne
  | [part], _, h => by
      rw [List.intercalate_singleton]
      exact split_eq_singleton (h part List.mem_cons_self)
  | part :: next :: rest, _, h => by
      have hrest := split_intercalate (List.cons_ne_nil next rest) fun other hother =>
        h other (List.mem_cons_of_mem _ hother)
      have hcut := split_append (h part List.mem_cons_self) ([mark].intercalate (next :: rest))
      rwa [hrest, ← List.singleton_append, ← List.append_assoc, ← List.intercalate_cons_cons]
        at hcut

end Text

namespace Path

/-- The names are names, and the root is none, one or two slashes. -/
structure Plain (path : Path) : Prop where
  root : path.root = "" ∨ path.root = "/" ∨ path.root = "//"
  parts : ∀ part ∈ path.parts, part ≠ "" ∧ part ≠ "." ∧ '/' ∉ part.toList

/-- The names that a text writes. -/
def names (cs : List Char) : List String :=
  ((Text.split '/' cs).map String.ofList).filter fun part => part ≠ "" && part ≠ "."

theorem plain_ofText (text : String) : (ofText text).Plain where
  root := by
    unfold ofText rootOf
    dsimp only
    split
    · exact .inl rfl
    · exact .inr (.inr rfl)
    · exact .inr (.inl rfl)
  parts := by
    intro part hpart
    obtain ⟨hmem, hname⟩ := List.mem_filter.mp hpart
    obtain ⟨cs, hcs, rfl⟩ := List.mem_map.mp hmem
    rw [Bool.and_eq_true, decide_eq_true_eq, decide_eq_true_eq] at hname
    refine ⟨hname.1, hname.2, ?_⟩
    rw [String.toList_ofList]
    exact Text.not_mem_of_mem_split hcs

/-- A slash at the start writes no name. -/
theorem names_slash_cons (cs : List Char) : names ('/' :: cs) = names cs := by
  unfold names
  rw [Text.split_mark_cons]
  rfl

/-- Names with slashes between them are read back. -/
theorem names_intercalate {parts : List String}
    (h : ∀ part ∈ parts, part ≠ "" ∧ part ≠ "." ∧ '/' ∉ part.toList) :
    names ("/".intercalate parts).toList = parts := by
  rw [String.toList_intercalate]
  by_cases hne : parts = []
  · rw [hne]
    rfl
  unfold names
  rw [show "/".toList = ['/'] from rfl, Text.split_intercalate (by simpa using hne) (by
    intro cs hcs
    obtain ⟨part, hpart, rfl⟩ := List.mem_map.mp hcs
    exact (h part hpart).2.2), List.map_map]
  have hid : String.ofList ∘ String.toList = id := funext fun s => String.ofList_toList
  rw [hid, List.map_id, List.filter_eq_self]
  intro part hpart
  simp [(h part hpart).1, (h part hpart).2.1]

/-- The text of names starts with no slash. -/
theorem takeWhile_intercalate {parts : List String}
    (h : ∀ part ∈ parts, part ≠ "" ∧ part ≠ "." ∧ '/' ∉ part.toList) :
    ("/".intercalate parts).toList.takeWhile (· = '/') = [] := by
  cases parts with
  | nil => rfl
  | cons part rest =>
      obtain ⟨hne, -, hslash⟩ := h part List.mem_cons_self
      cases hpart : part.toList with
      | nil => exact absurd (String.toList_inj.mp hpart) hne
      | cons c cs =>
          have hc : c ≠ '/' := by
            rintro rfl
            exact hslash (hpart ▸ List.mem_cons_self)
          obtain ⟨tail, htail⟩ : ∃ tail, ("/".intercalate (part :: rest)).toList = c :: tail := by
            rw [String.toList_intercalate, List.map_cons, hpart]
            cases rest with
            | nil => exact ⟨cs, List.intercalate_singleton⟩
            | cons next others => exact ⟨_, List.intercalate_cons_cons⟩
          rw [htail, List.takeWhile_cons_of_neg (by simpa using hc)]

/-- **A plain path is read back from its text.** -/
theorem Plain.ofText_toText {path : Path} (h : path.Plain) : ofText path.toText = path := by
  obtain ⟨root, parts⟩ := path
  have hnames := names_intercalate h.parts
  have hfirst := takeWhile_intercalate h.parts
  have hread (text : String) : ofText text = ⟨rootOf text.toList, names text.toList⟩ := rfl
  unfold toText
  dsimp only
  split
  next hempty =>
    rw [Bool.and_eq_true, String.isEmpty_iff, List.isEmpty_iff] at hempty
    rw [hempty.1, hempty.2]
    rfl
  next =>
    rw [hread, String.toList_append]
    rcases h.root with rfl | rfl | rfl
    · rw [String.toList_empty, List.nil_append, hnames, rootOf, hfirst]
      rfl
    · rw [show "/".toList = ['/'] from rfl, List.singleton_append, names_slash_cons, hnames, rootOf,
        List.takeWhile_cons_of_pos (by rfl), hfirst]
      rfl
    · rw [show "//".toList = ['/', '/'] from rfl, List.cons_append, List.singleton_append,
        names_slash_cons, names_slash_cons, hnames, rootOf, List.takeWhile_cons_of_pos (by rfl),
        List.takeWhile_cons_of_pos (by rfl), hfirst]
      rfl

/-- The text of a path is not empty. -/
theorem Plain.toText_ne_empty {path : Path} (h : path.Plain) : path.toText ≠ "" := by
  intro hempty
  have hread := h.ofText_toText
  rw [hempty] at hread
  rw [← hread] at hempty
  exact absurd hempty (by decide)

end Path

end PfaScript
