import PfaScript.Proofs.Marker
import PfaScript.Proofs.Uniform

/-!
# Where the markers of a document come from

Literals can hold any value, and the key of markers can be written as a name. Where a tree has
neither of these (`Node.Fits`), all markers of what is compiled from it, at any depth, are worded as
places of its nodes (`Program.compile_markersIn`): every object is tagged with the place of a node,
and nothing else is stored under the key of markers.
-/

namespace PfaScript

open Json (MarkersIn markersIn_obj)

/-- Whether a value has no parts. -/
def Json.isScalar : Json → Bool
  | .arr _ | .obj _ => false
  | _ => true

variable {M : String → Prop}

namespace Node

/-! ### Trees that fit -/

/-- Whether a node is not a literal with parts, nor an identifier named as the key of markers. -/
def isPlain : Node → Bool
  | .literal _ _ value _ => value.isScalar
  | .identifier _ name => name ≠ markerKey
  | _ => true

/-- A plain node with a place that is worded as `M` allows. -/
def Fits (M : String → Prop) (node : Node) : Prop :=
  (∀ place ∈ node.span, M place.describe) ∧ node.isPlain = true

/-- All of these nodes fit. -/
def AllFit (M : String → Prop) (nodes : List Node) : Prop := ∀ node ∈ nodes, Fits M node

theorem identifier_ne_markerKey {span : Option Span} {name : String}
    (h : Fits M (.identifier span name)) : name ≠ markerKey := by
  simpa [isPlain] using h.2

end Node

/-! ### Markers of values -/

theorem markersIn_of_isScalar {v : Json} (h : v.isScalar = true) : MarkersIn M v := by
  cases v <;> simp [Json.isScalar] at h <;> simp [MarkersIn, Json.markers]

theorem markersIn_insert {entries : Entries String Json} {key : String} {v : Json}
    (h : MarkersIn M (.obj entries)) (hkey : key ≠ markerKey) (hv : MarkersIn M v) :
    MarkersIn M (.obj (entries.insert key v)) := by
  refine markersIn_obj.mpr fun entry hentry => ?_
  rcases Entries.mem_of_mem_insert hentry with hold | rfl
  · exact markersIn_obj.mp h entry hold
  · exact ⟨hv, fun heq => absurd heq hkey⟩

/-- The markers of a tagged object are its own and those of its values. -/
theorem markersIn_tagged {span : Option Span} {entries : Entries String Json}
    (hspan : ∀ place ∈ span, M place.describe)
    (h : ∀ entry ∈ entries, entry.1 ≠ markerKey ∧ MarkersIn M entry.2) :
    MarkersIn M (tagged span entries) := by
  refine markersIn_obj.mpr fun entry hentry => ?_
  rcases Entries.mem_of_mem_update hentry with hmarker | hold
  · cases span with
    | none => cases hmarker
    | some place =>
        obtain rfl := List.mem_singleton.mp hmarker
        exact ⟨markersIn_of_isScalar rfl, fun _ => ⟨place.describe, rfl, hspan place rfl⟩⟩
  · exact ⟨(h entry hold).2, fun heq => absurd heq (h entry hold).1⟩

/-- Values pass on the markers of their parts, and add those of places. -/
theorem uniform_markersIn (M : String → Prop) :
    Results.Uniform (Node.Fits M) (fun span => ∀ place ∈ span, M place.describe) (· ≠ markerKey)
      (MarkersIn M) where
  place h := h.1
  variableName := Node.identifier_ne_markerKey
  fixedName h := h
  literal h := markersIn_of_isScalar h.2
  bool _ := markersIn_of_isScalar rfl
  one := markersIn_of_isScalar rfl
  negated {value _} _ hnumber := by
    cases value <;> cases hnumber <;> exact markersIn_of_isScalar rfl
  whole _ _ := markersIn_of_isScalar rfl
  str _ := markersIn_of_isScalar rfl
  arr := Json.markersIn_arr.mpr
  mapping := markersIn_tagged
  ofList h := markersIn_obj.mpr fun entry hentry =>
    have hentry := h entry (Entries.mem_of_mem_ofList hentry)
    ⟨hentry.2, fun heq => absurd heq hentry.1⟩
  insert := markersIn_insert

/-- The markers of a document are worded as places of the script's nodes. -/
theorem Program.compile_markersIn {program : Program} {document : Entries String Json}
    (hfit : Node.AllFit M program.toNode.walk) (h : program.compile = .ok document) :
    MarkersIn M (.obj document) := by
  have hbody : ∀ node ∈ Node.walkAll program.body, Node.Fits M node := by
    rw [toNode, Node.walk] at hfit
    exact fun node hnode => hfit node (List.mem_cons_of_mem _ hnode)
  refine markersIn_obj.mpr fun entry hentry => ?_
  obtain ⟨hkey, hvalue⟩ := (uniform_markersIn M).of_compile hbody h entry hentry
  exact ⟨hvalue, fun heq => absurd heq hkey⟩

end PfaScript
