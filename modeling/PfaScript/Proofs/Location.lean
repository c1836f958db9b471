import Mathlib
import PfaScript.Proofs.Provenance
import PfaScript.Proofs.Transparency

/-!
# Locations do not matter

The document of a script does not depend on where its parts stand in the source file, but for its
markers (`Program.location_transparent`). The fields are compiled by functions of their own, which
agree on trees that are alike because the compilers of constants, expressions and statements do
(`Program.compile_like`), and relabelled trees are alike up to places and markers. In a script
without places there is no text that could be a marker, so its document has none and stripping
leaves it as it is. A relabelling that keeps the places keeps the markers too: the other labels do
not show in a document (`Program.document_placed`).
-/

namespace PfaScript

open Json (SameFields)

open Likeness (Fields)

open Node (Like Kept ParamRel relabel)

section Like

variable {L : Likeness}

/-! ### Fields -/

/-- The entries of object literals agree if what is made of them does. -/
theorem entriesWith_agree {make : String → Node → Except Fault Json}
    (hmake : ∀ name node other, Like L node other →
      L.Agree L.Same (make name node) (make name other))
    {properties others : List Node} (h : List.Forall₂ (Like L) properties others) :
    L.Agree L.Fields (entriesWith make properties) (entriesWith make others) := by
  induction h with
  | nil => exact .ok .nil
  | cons hfirst _ ih =>
      have hplace := hfirst.place
      cases hfirst with
      | property _ hkey hvalue =>
          rw [entriesWith, entriesWith]
          exact property_agree hkey hplace _ _ (fun name => hmake name _ _ hvalue) ih
      | _ => exact .error rfl hplace

namespace Slot

theorem setting_agree (store : Store) (name key : String) {node other : Node}
    (h : Like L node other) :
    L.Agree L.Same (setting store name key node) (setting store name key other) := by
  unfold setting
  refine .ite (fun _ => .error rfl h.place) fun _ => ?_
  refine (Node.constant_agree h).bind fun _ _ hconstant => ?_
  rw [← hconstant.isFlag_eq]
  exact .ite (fun _ => .error rfl h.place) fun _ => .ok hconstant

theorem required_ne_markerKey (store : Store) : ∀ key ∈ required store, key ≠ markerKey := by
  cases store <;> decide

theorem declaration_agree (store : Store) (name : String) {node other : Node}
    (h : Like L node other) :
    L.Agree L.Same (declaration store name node) (declaration store name other) := by
  have hplace := h.place
  cases h with
  | object _ hproperties =>
      simp only [declaration]
      refine (entriesWith_agree (fun key _ _ => setting_agree store name key) hproperties).bind
        fun given given' hgiven => ?_
      -- Slots that are alike lack the same settings.
      have hfind : (required store).find? (!(Entries.ofList given).contains ·) =
          (required store).find? (!(Entries.ofList given').contains ·) := by
        refine List.find?_congr fun key hkey => ?_
        rw [hgiven.ofList.contains_eq (required_ne_markerKey store key hkey)]
      rw [← hfind]
      cases (required store).find? (!(Entries.ofList given).contains ·) with
      | some key => exact .error rfl hplace
      | none => exact .ok (hgiven.ofList.tagged hplace)
  | _ => exact .error rfl hplace

end Slot

theorem Node.slots_agree (store : Store) {node other : Node} (h : Like L node other) :
    L.Agree L.Same (node.slots store) (other.slots store) := by
  have hplace := h.place
  cases h with
  | object _ hproperties =>
      simp only [slots]
      refine (entriesWith_agree (fun name _ _ => Slot.declaration_agree store name)
        hproperties).bind fun _ _ h => ?_
      exact .ok (h.ofList.tagged hplace)
  | _ => exact .error rfl hplace

namespace Document

variable {node other : Node} {document document' : Entries String Json}

theorem plainFunction_agree (field : Field) (h : Like L node other) :
    L.Agree (fun v w => List.Forall₂ (ParamRel (Like L)) v.1 w.1 ∧ Kept (Like L) v.2 w.2)
      (plainFunction field node) (plainFunction field other) := by
  have hplace := h.place
  cases h with
  | function _ hparams hbody hid hrest =>
      cases hbody with
      | block _ hbody =>
          rw [plainFunction, plainFunction, Node.isPlainFunction_eq hid hrest]
          exact .ite (fun _ => .ok ⟨hparams, hbody⟩) fun _ => .error rfl hplace
      | _ => exact .error rfl hplace
  | _ => exact .error rfl hplace

theorem actionParameters_agree (seen : List String) {params others : List (Param Node)}
    (h : List.Forall₂ (ParamRel (Like L)) params others) :
    L.Agree Eq (actionParameters seen params) (actionParameters seen others) := by
  induction h generalizing seen with
  | nil => exact .ok rfl
  | cons hparam _ ih =>
      obtain ⟨htarget, hinitial⟩ := hparam
      have hplace := htarget.place
      cases htarget with
      | @identifier _ _ name =>
          rw [actionParameters, actionParameters]
          cases hinitial <;> exact .ite (fun _ => ih _) fun _ => .error rfl hplace
      | _ => exact .error rfl hplace

theorem constantInteger?_eq (h : Like L node other) :
    constantInteger? other = constantInteger? node := by
  unfold constantInteger?
  cases h with
  | @literal _ _ _ _ value => cases value <;> rfl
  | unary _ hargument => simp only [constantNumber?, negatedLiteral?_eq hargument]
  | _ => rfl

theorem value_method_agree (h : Like L node other) :
    L.Agree L.Same (value .method node) (value .method other) := by
  simp only [value, h.text?_eq]
  cases node.text? with
  | some text => exact .ok (.refl _)
  | none =>
      have hplace := h.place
      cases h with
      | identifier => exact .ok (.refl _)
      | _ => exact .error rfl hplace

theorem value_begin_agree {field : Field} (hfield : field = .begin ∨ field = .end)
    (h : Like L node other) : L.Agree L.Same (value field node) (value field other) := by
  rcases hfield with rfl | rfl <;>
  · simp only [value]
    refine (plainFunction_agree _ h).bind ?_
    rintro ⟨params, body⟩ ⟨params', body'⟩ ⟨hparams, hbody⟩
    cases hparams with
    | nil => exact (Node.statements_agree hbody).bind fun _ _ h => .ok h.arr
    | cons _ _ => exact .error rfl h.place

theorem value_agree (field : Field) (h : Like L node other) :
    L.Agree L.Same (value field node) (value field other) := by
  have hplace := h.place
  cases field with
  | name | doc =>
      simp only [value, h.text?_eq]
      cases node.text? with
      | none => exact .error rfl hplace
      | some text => exact .ok (.refl _)
  | method => exact value_method_agree h
  | input | output | zero | metadata => exact Node.constant_agree h
  | begin => exact value_begin_agree (.inl rfl) h
  | «end» => exact value_begin_agree (.inr rfl) h
  | action =>
      simp only [value]
      refine (plainFunction_agree .action h).bind ?_
      rintro ⟨params, body⟩ ⟨params', body'⟩ ⟨hparams, hbody⟩
      refine (actionParameters_agree [] hparams).bind fun names _ hnames => ?_
      subst hnames
      refine .ite (fun _ => .error rfl hplace) fun _ => ?_
      exact (Node.statements_agree hbody).bind fun _ _ h => .ok h.arr
  | fcns =>
      cases h with
      | object _ hproperties =>
          simp only [value]
          refine (entriesWith_agree (fun _ _ _ => Node.definition_agree) hproperties).bind
            fun _ _ h => ?_
          exact .ok (h.ofList.tagged hplace)
      | _ => exact .error rfl hplace
  | cells => exact Node.slots_agree .cells h
  | pools => exact Node.slots_agree .pools h
  | randseed =>
      simp only [value, constantInteger?_eq h]
      cases constantInteger? node with
      | none => exact .error rfl hplace
      | some n => exact .ok (.refl _)
  | options =>
      cases h with
      | object _ hproperties =>
          simp only [value]
          refine (Node.constantEntries_agree hproperties).bind fun _ _ h => ?_
          exact .ok (h.ofList.tagged hplace)
      | _ => exact .error rfl hplace

/-! ### Documents -/

theorem assignment?_rel (h : Like L node other) :
    Option.Rel (fun v w => v.1 = w.1 ∧ Like L v.2 w.2) (assignment? node) (assignment? other) := by
  cases h with
  | expressionStatement _ hinner =>
      cases hinner with
      | @assignment _ _ operator _ _ _ _ _ hleft hright =>
          by_cases hop : operator = "="
          · subst hop
            cases hleft with
            | identifier => exact .some ⟨rfl, hright⟩
            | _ => exact .none
          · have hnone : ∀ span place left right,
                assignment? (.expressionStatement span (.assignment place operator left right)) =
                  none := by
              simp [assignment?, hop]
            rw [hnone, hnone]
            exact .none
      | _ => exact .none
  | _ => exact .none

theorem entry_agree (hdocument : L.Fields document document') (h : Like L node other) :
    L.Agree L.Change (entry document node) (entry document' other) := by
  have hplace := h.place
  have hassignment := assignment?_rel h
  unfold entry
  generalize assignment? node = assigned at hassignment
  generalize assignment? other = assigned' at hassignment
  cases hassignment with
  | none => exact .error rfl hplace
  | @some assigned assigned' hassigned =>
      obtain ⟨key, value⟩ := assigned
      obtain ⟨key', value'⟩ := assigned'
      obtain ⟨hkey, hvalue⟩ := hassigned
      obtain rfl : key = key' := hkey
      simp only
      cases hfield : Field.ofKey? key with
      | none => exact .error rfl hplace
      | some field =>
          simp only [ hdocument.contains_eq (ne_markerKey_of_ofKey? hfield)]
          refine .ite (fun _ => .error rfl hplace) fun _ => ?_
          exact (value_agree field hvalue).bind fun _ _ hvalue => .ok ⟨rfl, hvalue⟩

theorem extend_agree (hdocument : L.Fields document document') {node other : Node}
    (h : Like L node other) : L.Agree L.Fields (extend document node) (extend document' other) := by
  refine (entry_agree hdocument h).bind ?_
  rintro ⟨key, value⟩ ⟨key', value'⟩ ⟨hkey, hvalue⟩
  obtain rfl : key = key' := hkey
  exact .ok (hdocument.append (.cons key hvalue .nil))

theorem gathered_agree {statements others : List Node}
    (h : List.Forall₂ (Like L) statements others) (hdocument : L.Fields document document') :
    L.Agree L.Fields (statements.foldlM extend document) (others.foldlM extend document') := by
  induction h generalizing document document' with
  | nil => exact .ok hdocument
  | cons hfirst _ ih =>
      rw [List.foldlM_cons, List.foldlM_cons]
      exact (extend_agree hdocument hfirst).bind fun _ _ hnext => ih hnext

theorem incomplete?_eq (h : L.Fields document document') :
    incomplete? document = incomplete? document' := by
  unfold incomplete?
  have hfind : Field.required.find? (!document.contains ·.key) =
      Field.required.find? (!document'.contains ·.key) := by
    refine List.find?_congr fun field _ => ?_
    have hkey : field.key ≠ markerKey := by cases field <;> decide
    rw [h.contains_eq hkey]
  rw [hfind]

end Document

/-- Scripts that are alike compile alike. -/
theorem Program.compile_like {program other : Program}
    (h : List.Forall₂ (Like L) program.body other.body) :
    L.Agree L.Fields program.compile other.compile := by
  refine (Document.gathered_agree h Fields.nil).bind fun document document' hfields => ?_
  rw [Document.incomplete?_eq hfields]
  cases Document.incomplete? document' with
  | some fault => exact .error rfl (.refl _)
  | none => exact .ok hfields

end Like

variable (r : Relabelling)

theorem Program.compile_relabel_agree (program : Program) :
    Agree SameFields program.compile (program.relabel r).compile := by
  have hlike : List.Forall₂ (Like .stripped) program.body (program.relabel r).body :=
    Node.like_relabelAll (L := .stripped) (fun _ => trivial) program.body
  exact (compile_like hlike).agree

/-! ### Written forms -/

/-- Keeps the places and drops all other labels. -/
def Relabelling.placed : Relabelling where
  span := id
  raw _ := none
  payload _ := []

/-- **Written forms do not matter.** A script without the written forms of its literals and the
payloads of its unknown constructs has the same document, or stops at the same fault. -/
theorem Program.document_placed (program : Program) (withLocations : Bool) :
    (program.relabel .placed).document withLocations = program.document withLocations := by
  have hlike : List.Forall₂ (Like .exact) program.body (program.relabel .placed).body :=
    Node.like_relabelAll (L := .exact) (r := .placed) (fun _ => rfl) program.body
  rw [document, document, (compile_like hlike).eq]

/-! ### Removing the places first -/

theorem Node.isPlain_relabel (node : Node) : (relabel r node).isPlain = node.isPlain := by
  cases node <;> simp only [relabel, isPlain]

/-- A plain script has no places left once they are removed, and stays plain. -/
theorem Program.allFit_unplaced {program : Program}
    (h : ∀ node ∈ program.toNode.walk, node.isPlain = true) :
    Node.AllFit (fun _ => False) program.unplaced.toNode.walk := by
  have hwalk : program.unplaced.toNode.walk = program.toNode.walk.map (Node.relabel .unplaced) := by
    rw [← Node.walk_relabel, toNode, toNode, Node.relabel]
    rfl
  rw [hwalk]
  intro node hnode
  obtain ⟨original, horiginal, rfl⟩ := List.mem_map.mp hnode
  refine ⟨?_, ?_⟩
  · rw [Node.span_relabel]
    intro place hplace
    cases hplace
  · rw [Node.isPlain_relabel]
    exact h original horiginal

/-- A document without places is left as it is by stripping. -/
theorem Program.stripFields_unplaced {program : Program} {document : Entries String Json}
    (hplain : ∀ node ∈ program.toNode.walk, node.isPlain = true)
    (h : program.unplaced.compile = .ok document) : Json.stripFields document = document := by
  have hmarkers := Program.compile_markersIn (Program.allFit_unplaced hplain) h
  have hnone := Json.markers_eq_nil_of_markersIn hmarkers
  rw [Json.markers] at hnone
  exact Json.stripFields_eq_self hnone

/-- **Locations do not matter.** Two scripts that differ only in labels both stop, for the same
cause and so with the same kind of fault and the same message, or they give documents that are equal
when stripped. And where a script has no literal with parts and no name that is the key of markers,
stripping its document gives what the script without places gives. -/
theorem Program.location_transparent :
    (∀ p q : Program, p.bare = q.bare →
      Agree (fun d e => Json.stripFields d = Json.stripFields e) p.compile q.compile) ∧
    ∀ p : Program, (∀ node ∈ p.toNode.walk, node.isPlain = true) →
      Agree Eq (p.document false) p.unplaced.compile := by
  refine ⟨fun p q h => ?_, fun p hplain => ?_⟩
  · have hp : Agree SameFields p.compile p.bare.compile := compile_relabel_agree .bare p
    have hq : Agree SameFields q.compile p.bare.compile := h ▸ compile_relabel_agree .bare q
    exact hp.trans_symm hq fun d e f hd he => hd.trans he.symm
  · have hunplaced : Agree SameFields p.compile p.unplaced.compile :=
      compile_relabel_agree .unplaced p
    unfold document
    generalize hcompile : p.unplaced.compile = outcome at hunplaced
    generalize p.compile = given at hunplaced
    cases hunplaced with
    | error hcause => exact .error hcause
    | ok hsame =>
        refine .ok ?_
        rw [← Program.stripFields_unplaced hplain hcompile]
        exact hsame

/-- The script `input = "double"; output = "double"; action = function(input) { input + 1; };`, all
of it at one place. -/
def Program.increment (place : Option Span) : Program :=
  let field (name : String) (value : Node) : Node :=
    .expressionStatement place (.assignment place "=" (.identifier place name) value)
  let double : Node := .literal place (some (.str "'double'")) (.str "double") .null
  let sum : Node :=
    .binary place "+" (.identifier place "input") (.literal place none (.int 1) .null)
  ⟨place,
    [field "input" double, field "output" double,
      field "action" (.function place [⟨.identifier place "input", none⟩]
        (.block place [.expressionStatement place sum]) none none ⟨false, false, false⟩)]⟩

theorem Program.location_transparent_increment :
    (increment (some ⟨1, 0, 1, 60⟩)).bare = (increment (some ⟨7, 2, 9, 4⟩)).bare ∧
      Agree (fun d e => Json.stripFields d = Json.stripFields e)
        (increment (some ⟨1, 0, 1, 60⟩)).compile (increment (some ⟨7, 2, 9, 4⟩)).compile ∧
      (∀ node ∈ (increment (some ⟨1, 0, 1, 60⟩)).toNode.walk, node.isPlain = true) ∧
      Agree Eq ((increment (some ⟨1, 0, 1, 60⟩)).document false)
        (increment (some ⟨1, 0, 1, 60⟩)).unplaced.compile ∧
      (increment (some ⟨1, 0, 1, 60⟩)).unplaced.compile =
        .ok [("input", .str "double"), ("output", .str "double"),
          ("action", .arr [.obj [("+", .arr [.str "input", .int 1])]])] := by
  have hbare : (increment (some ⟨1, 0, 1, 60⟩)).bare = (increment (some ⟨7, 2, 9, 4⟩)).bare := by
    rfl
  have hplain : ∀ node ∈ (increment (some ⟨1, 0, 1, 60⟩)).toNode.walk, node.isPlain = true := by
    decide
  exact ⟨hbare, location_transparent.1 _ _ hbare, hplain, location_transparent.2 _ hplain, by cbv⟩

end PfaScript
