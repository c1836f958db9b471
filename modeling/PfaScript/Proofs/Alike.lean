import Mathlib.Data.Option.Basic
import PfaScript.Proofs.Congruence

/-!
# Respelled trees are read alike

`Load.Alike` says that two values are read the same up to written forms, wherever a node can hold
them: as a child, as a list of children or as the parameters of a function. It is an equivalence
that contains the encodings of a node, and a node whose fields are alike is alike itself, because a
construct is built alike from fields that are (`Load.build_same`). So it contains `Respelled`
(`Load.alike_of_respelled`).

The parameters of a function need more of their values than the nodes that are read of them. A
pattern is first read as an unknown construct, whose payload is no part of the comparison, and then
again from its parts; this is why `Load.NodeAlike` compares the parts of unknown constructs too.
-/

namespace PfaScript

open Node (relabel relabelHoles relabelOption)

open Spelling

namespace Load

/-! ### Values that are read alike -/

/-- Two values are read alike where a node stands. A pattern among parameters is read again from its
parts, so unknown constructs are alike in these too. -/
structure NodeAlike (v w : Json) : Prop where
  isNull : v.isNull = w.isNull
  node : SameBy (relabel .placed) (node v) (node w)
  unknown {tag : String} (h : Construct.ofTag? tag = none) :
    v.field? "type" = some (.str tag) ↔ w.field? "type" = some (.str tag)
  parts {tag : String} (h : Construct.ofTag? tag = none) (htag : v.field? "type" = some (.str tag))
    (owner owner' key : String) :
    SameBy (relabel .placed) (childOf owner key (v.field? key)) (childOf owner' key (w.field? key))

/-- Two values are read alike wherever they stand: as a node, as a list of nodes and as the
parameters of a function. -/
structure Alike (v w : Json) : Prop extends NodeAlike v w where
  items (tag tag' key : String) :
    SameBy (relabelHoles .placed) (itemsOf tag key (some v)) (itemsOf tag' key (some w))
  params (tag tag' : String) {defaults defaults' : List (Option Node)}
    (h : relabelHoles .placed defaults = relabelHoles .placed defaults') :
    SameBy (relabelRead .placed) (parametersOf tag defaults (some v))
      (parametersOf tag' defaults' (some w))

theorem NodeAlike.refl (v : Json) : NodeAlike v v where
  isNull := rfl
  node := .refl _
  unknown _ := Iff.rfl
  parts _ _ owner owner' key := childOf_same_self owner owner' key _

/-! ### Lists -/

section lists

variable {values values' : List Json}

theorem NodeAlike.option {v w : Json} (h : NodeAlike v w) :
    SameBy (relabelOption .placed) (optionOf (some v)) (optionOf (some w)) := by
  rw [optionOf, optionOf, h.isNull]
  split
  · exact .ok rfl
  · exact h.node.bind fun n n' hn => .ok (congrArg some hn)

theorem NodeAlike.item {v w : Json} (h : NodeAlike v w) : ItemRelated .any .placed v w where
  option := h.option
  parts hunknown htag owner _ _ := h.parts hunknown htag owner owner _

/-- Lists of values that are read alike are read alike. -/
theorem Alike.arr (h : List.Forall₂ NodeAlike values values') :
    Alike (.arr values) (.arr values') := by
  have hitems : List.Forall₂ (ItemRelated .any .placed) values values' :=
    h.imp fun _ _ => NodeAlike.item
  exact
    { isNull := rfl
      node := .error
      unknown := fun _ => by simp [Json.field?]
      parts := fun _ htag => by simp [Json.field?] at htag
      items := fun _ _ _ => nodes_related hitems
      params := fun _ _ _ _ hdefaults => (nodes_related hitems).bind_of_eq
        fun _ _ hread hread' _ => attach_related hitems hdefaults hread hread' }

end lists

namespace Alike

theorem refl (v : Json) : Alike v v := by
  cases v with
  | arr values => exact .arr (List.forall₂_same.mpr fun v _ => .refl v)
  | _ =>
      refine { NodeAlike.refl _ with items := fun _ _ _ => ?_, params := fun _ _ _ _ _ => ?_ }
      · exact .error
      · exact .error

theorem symm {v w : Json} (h : Alike v w) : Alike w v where
  isNull := h.isNull.symm
  node := h.node.symm
  unknown htag := (h.unknown htag).symm
  parts hunknown htag owner owner' key :=
    (h.parts hunknown ((h.unknown hunknown).mpr htag) owner' owner key).symm
  items tag tag' key := (h.items tag' tag key).symm
  params tag tag' _ _ hdefaults := (h.params tag' tag hdefaults.symm).symm

theorem trans {u v w : Json} (h : Alike u v) (h' : Alike v w) : Alike u w where
  isNull := h.isNull.trans h'.isNull
  node := h.node.trans h'.node
  unknown hunknown := (h.unknown hunknown).trans (h'.unknown hunknown)
  parts hunknown htag owner owner' key :=
    (h.parts hunknown htag owner owner key).trans
      (h'.parts hunknown ((h.unknown hunknown).mp htag) owner owner' key)
  items tag tag' key := (h.items tag tag key).trans (h'.items tag tag' key)
  params tag tag' _ _ hdefaults := (h.params tag tag rfl).trans (h'.params tag tag' hdefaults)

end Alike

/-! ### Fields -/

section fields

variable {field field' : Option Json}

theorem childOf_same (h : Option.Rel Alike field field') (tag tag' key : String) :
    SameBy (relabel .placed) (childOf tag key field) (childOf tag' key field') := by
  cases h with
  | none => exact .error
  | some h =>
      rw [childOf, childOf, h.isNull]
      split
      · exact .error
      · exact h.node

theorem optionOf_same (h : Option.Rel Alike field field') :
    SameBy (relabelOption .placed) (optionOf field) (optionOf field') := by
  cases h with
  | none => exact .ok rfl
  | some h => exact h.option

theorem itemsOf_same (h : Option.Rel Alike field field') (tag key : String) :
    SameBy (relabelHoles .placed) (itemsOf tag key field) (itemsOf tag key field') := by
  cases h with
  | none => exact .ok rfl
  | some h => exact h.items tag tag key

theorem parametersOf_same (h : Option.Rel Alike field field') (tag : String)
    {defaults defaults' : List (Option Node)}
    (hdefaults : relabelHoles .placed defaults = relabelHoles .placed defaults') :
    SameBy (relabelRead .placed) (parametersOf tag defaults field)
      (parametersOf tag defaults' field') := by
  cases h with
  | none => exact .ok rfl
  | some h => exact h.params tag tag hdefaults

end fields

/-- Constructs are built alike from fields that are read alike. -/
theorem build_same {f g : Entries String Json} {c : Construct}
    (hfields : ∀ key, Option.Rel Alike (f.get? key) (g.get? key))
    (hplain : SameAt f g c.plainKeys) (tag : String) :
    SameBy erased (build tag f c) (build tag g c) := by
  have hrelated : FieldsRelated .any .placed tag c f g :=
    { child := fun key _ => childOf_same (hfields key) tag tag key
      option := fun key _ => optionOf_same (hfields key)
      items := fun key _ => itemsOf_same (hfields key) tag key
      params := fun key _ _ _ hdefaults => parametersOf_same (hfields key) tag hdefaults
      plain := hplain
      raw := fun _ => rfl }
  exact build_related (fun _ => trivial) hrelated

/-! ### Objects -/

theorem node_untagged {fields : Entries String Json}
    (h : ∀ tag, Tagged fields tag → tag.isEmpty = true) :
    node (.obj fields) = .error (.malformed .missingTag) := by
  rw [node]
  split
  · next tag htag => rw [if_pos (h tag htag)]
  · rfl

/-- Objects are read alike if their fields are, and their tags, places and plain fields are the
same. -/
theorem Alike.obj {f g : Entries String Json}
    (hfields : ∀ key, Option.Rel Alike (f.get? key) (g.get? key))
    (hplain : SameAt f g (plainKeys f)) : Alike (.obj f) (.obj g) where
  isNull := rfl
  node := by
    have htype : f.get? "type" = g.get? "type" := hplain "type" (by simp [plainKeys])
    have hloc : f.get? "loc" = g.get? "loc" := hplain "loc" (by simp [plainKeys])
    by_cases hempty : ∀ tag, Tagged f tag → tag.isEmpty = true
    · rw [node_untagged hempty, node_untagged (by simpa only [Tagged, htype] using hempty)]
      exact .error
    simp only [not_forall, Bool.not_eq_true] at hempty
    obtain ⟨tag, htag, hne⟩ := hempty
    have htag' : Tagged g tag := htype.symm.trans htag
    cases hc : Construct.ofTag? tag with
    | none =>
        -- The payloads differ, but they are no part of the comparison.
        rw [node_unknown htag hne hc, node_unknown htag' hne hc, spanField, spanField, hloc]
        cases Span.ofLoc (g.get? "loc") with
        | ok span => exact .ok rfl
        | error e => cases e <;> [exact .ok rfl; exact .error]
    | some c =>
        refine node_same htag hc htag' hc hloc (build_same hfields (fun key hkey => ?_) tag)
        refine hplain key ?_
        rw [Tagged] at htag
        simp [plainKeys, htag, hc, hkey]
  unknown _ := by
    rw [Json.field?, Json.field?, hplain "type" (by simp [plainKeys])]
  parts _ _ owner owner' key := childOf_same (hfields key) owner owner' key
  items _ _ _ := .error
  params _ _ _ _ _ := .error

theorem Alike.option_refl (field : Option Json) : Option.Rel Alike field field := by
  cases field with
  | none => exact .none
  | some v => exact .some (.refl v)

/-- Changing one field for a value that is read alike. -/
theorem Alike.field {before after : Entries String Json} {key : String} {v w : Json}
    (hkey : key ∉ plainKeys (before ++ (key, v) :: after)) (h : Alike v w) :
    Alike (.obj (before ++ (key, v) :: after)) (.obj (before ++ (key, w) :: after)) := by
  have hget (k : String) (u : Json) : Entries.get? (before ++ (key, u) :: after) k =
      (before.get? k <|> if key = k then some u else after.get? k) := by
    rw [Entries.get?_append, Entries.get?]
    simp only [beq_iff_eq]
  refine .obj (fun k => ?_) (fun k hk => ?_)
  · rw [hget, hget]
    cases before.get? k with
    | some u => exact .some (.refl u)
    | none =>
        by_cases hkk : key = k
        · simp only [if_pos hkk]
          exact .some h
        · simp only [if_neg hkk]
          exact Alike.option_refl _
  · have hkk : key ≠ k := fun heq => hkey (heq ▸ hk)
    rw [hget, hget, if_neg hkk, if_neg hkk]

theorem Alike.item {before after : List Json} {v w : Json} (h : Alike v w) :
    Alike (.arr (before ++ v :: after)) (.arr (before ++ w :: after)) := by
  have hsame (values : List Json) : List.Forall₂ NodeAlike values values :=
    List.forall₂_same.mpr fun v _ => .refl v
  exact .arr (List.rel_append (hsame before) (.cons h.toNodeAlike (hsame after)))

/-- An object with the tag of a known construct. -/
def Known (fields : Entries String Json) : Prop :=
  ∃ tag, Tagged fields tag ∧ Construct.ofTag? tag ≠ none

theorem Known.field_ne {fields : Entries String Json} (h : Known fields) {tag : String}
    (hunknown : Construct.ofTag? tag = none) :
    (Json.obj fields).field? "type" ≠ some (.str tag) := by
  obtain ⟨tag', htag', hknown⟩ := h
  intro htag
  cases htag'.symm.trans htag
  exact hknown hunknown

theorem known_of_encoding {f g : Entries String Json} (h : Encoding f g) : Known f ∧ Known g := by
  cases h with
  | typed htag hf _ hg =>
      refine ⟨⟨_, hf, ?_⟩, _, hg, by decide⟩
      rcases htag with rfl | rfl | rfl <;> decide
  | null hf hg | regex hf _ hg | property hf _ _ hg | logical hf hg | function hf _ hg =>
      exact ⟨⟨_, hf, by decide⟩, _, hg, by decide⟩

theorem Alike.encoding {f g : Entries String Json} (h : Encoding f g)
    (hloc : f.get? "loc" = g.get? "loc") : Alike (.obj f) (.obj g) := by
  obtain ⟨hf, hg⟩ := known_of_encoding h
  exact
    { isNull := rfl
      node := encoding_same h hloc
      unknown := fun htag => ⟨(absurd · (hf.field_ne htag)), (absurd · (hg.field_ne htag))⟩
      parts := fun htag h => absurd h (hf.field_ne htag)
      items := fun _ _ _ => .error
      params := fun _ _ _ _ _ => .error }

/-- Values with some nodes written in another way are read alike. -/
theorem alike_of_respelled {v w : Json} (h : Respelled v w) : Alike v w := by
  induction h with
  | encoding h hloc => exact .encoding h hloc
  | field hkey _ ih => exact .field hkey ih
  | item _ ih => exact .item ih
  | refl v => exact .refl v
  | symm _ ih => exact ih.symm
  | trans _ _ ih ih' => exact ih.trans ih'

end Load

end PfaScript
