import Mathlib
import PfaScript.Proofs.Provenance

/-!
# The source of all locations

Every location that a script leads to is the place of one of its nodes, whether it stands in the
document, as a marker, or in a fault (`Program.locations_of_nodes`). For markers this is known, and
the entries of a document account for their faults (`Results.entry_accounts`). The only fault that
no node is to blame for is that a required field is missing (`Program.compile_blames`).
-/

namespace PfaScript

/-- A script that gives no document lacks a required field, or its fault is blamed on one of its
nodes. -/
theorem Program.compile_blames {program : Program} {fault : Fault}
    (h : program.compile = .error fault) :
    fault.cause.kind = .missingRequiredField ∧ fault.span = none ∨
      ∃ node ∈ program.toNode.walk, fault.span = node.span := by
  rcases compile_eq_error_iff.mp h with hgathered | ⟨document, -, hincomplete⟩
  · obtain ⟨before, statement, after, d, hbody, -, hfails⟩ := foldlM_eq_error_iff.mp hgathered
    obtain ⟨node, hnode, hspan⟩ := (Results.entry_accounts d statement).blamed
      (fun _ _ => trivial) (Node.mem_walk_self statement) (Document.extend_eq_error_iff.mp hfails)
    refine .inr ⟨node, ?_, hspan⟩
    rw [toNode, Node.walk, hbody, Node.walkAll_eq]
    exact List.mem_cons_of_mem _ (List.mem_flatMap.mpr ⟨statement, by simp, hnode⟩)
  · unfold Document.incomplete? at hincomplete
    obtain ⟨field, -, rfl⟩ := Option.map_eq_some_iff.mp hincomplete
    exact .inl ⟨rfl, rfl⟩

/-! ### Locations -/

/-- **All locations are those of the script's nodes.** If the script gives a document, has no
literal with parts and no name that is the key of markers, then what stands under the key of markers
anywhere in the document is the wording of the place of one of its nodes. If it gives a fault, the
location of the fault, where it has one, is such a wording too; and if all nodes have places, then
only the fault that a required field is missing has no location. -/
theorem Program.locations_of_nodes (program : Program) :
    (∀ document, program.compile = .ok document →
      (∀ node ∈ program.toNode.walk, node.isPlain = true) →
      ∀ v ∈ (Json.obj document).markers, ∃ node ∈ program.toNode.walk,
        ∃ span, node.span = some span ∧ v = .str span.describe) ∧
    ∀ fault, program.compile = .error fault →
      (fault.location = none ∨ ∃ node ∈ program.toNode.walk,
        ∃ span, node.span = some span ∧ fault.location = some span.describe) ∧
      ((∀ node ∈ program.toNode.walk, node.span ≠ none) →
        fault.cause.kind ≠ .missingRequiredField → fault.location ≠ none) := by
  refine ⟨fun document h hplain v hv => ?_, fun fault h => ?_⟩
  · have hfit : Node.AllFit (fun text => ∃ node ∈ program.toNode.walk,
        ∃ span, node.span = some span ∧ text = span.describe) program.toNode.walk :=
      fun node hnode =>
        ⟨fun span hspan => ⟨node, hnode, span, hspan, rfl⟩, hplain node hnode⟩
    obtain ⟨text, rfl, node, hnode, span, hspan, rfl⟩ := compile_markersIn hfit h v hv
    exact ⟨node, hnode, span, hspan, rfl⟩
  · unfold Fault.location
    rcases compile_blames h with ⟨hkind, hnone⟩ | ⟨node, hnode, hspan⟩
    · rw [hnone]
      exact ⟨.inl rfl, fun _ hother => absurd hkind hother⟩
    · rw [hspan]
      cases hplace : node.span with
      | none => exact ⟨.inl rfl, fun hall _ => absurd hplace (hall node hnode)⟩
      | some span =>
          exact ⟨.inr ⟨node, hnode, span, hplace, rfl⟩, fun _ _ hnone => nomatch hnone⟩

/-- A script in which a `for` loop has the given step, on the fifth line:

    input = "int";
    output = "int";
    action = function(input) {
      for (var i = input; i;
        ...) f(i);
    };
-/
def Program.countdown (step : Node) : Program :=
  let line (n : Int) : Option Span := some ⟨n, 0, n, 40⟩
  let field (place : Option Span) (name : String) (value : Node) : Node :=
    .expressionStatement place (.assignment place "=" (.identifier place name) value)
  let header (name : String) : Node := .identifier (line 4) name
  let loop : Node := .forLoop (some ⟨4, 2, 5, 18⟩)
    (some (.declaration (line 4) [⟨line 4, header "i", some (header "input")⟩] "var"))
    (some (header "i")) (some step)
    (.expressionStatement (line 5)
      (.call (line 5) (.identifier (line 5) "f") [.identifier (line 5) "i"]))
  ⟨some ⟨1, 0, 6, 2⟩,
    [field (line 1) "input" (.literal (line 1) none (.str "int") .null),
      field (line 2) "output" (.literal (line 2) none (.str "int") .null),
      field (some ⟨3, 0, 6, 2⟩) "action"
        (.function (some ⟨3, 9, 6, 1⟩) [⟨.identifier (line 3) "input", none⟩]
          (.block (some ⟨3, 25, 6, 1⟩) [loop]) none none ⟨false, false, false⟩)]⟩

/-- The document of `Program.countdown` with the step `i--`. -/
def Program.countdownDocument : Entries String Json :=
  [("input", .str "int"), ("output", .str "int"),
    ("action", .arr [.obj [("@", .str "JS lines 4 to 5"), ("for", .obj [("i", .str "input")]),
      ("while", .str "i"),
      ("step", .obj [("i", .obj [("@", .str "JS lines 5 to 5"), ("-", .arr [.str "i", .int 1])])]),
      ("do", .arr [.obj [("@", .str "JS lines 5 to 5"), ("f", .arr [.str "i"])]])]])]

theorem Program.locations_of_nodes_countdown :
    let place : Span := ⟨5, 4, 5, 7⟩
    let change : Node := .update (some place) "--" (.identifier (some place) "i") false
    let test : Node := .identifier (some place) "i"
    ((countdown change).compile = .ok countdownDocument ∧
      (∀ node ∈ (countdown change).toNode.walk, node.isPlain = true) ∧
      .str "JS lines 5 to 5" ∈ (Json.obj countdownDocument).markers ∧
      ∃ node ∈ (countdown change).toNode.walk,
        ∃ span, node.span = some span ∧ Json.str "JS lines 5 to 5" = .str span.describe) ∧
    (countdown test).compile = .error ⟨.forStep, some place⟩ ∧
      (∀ node ∈ (countdown test).toNode.walk, node.span ≠ none) ∧
      Fault.location ⟨.forStep, some place⟩ ≠ none := by
  intro place change test
  have hdocument : (countdown change).compile = .ok countdownDocument := by cbv
  have hplain : ∀ node ∈ (countdown change).toNode.walk, node.isPlain = true := by decide
  have hmarkers : (Json.obj countdownDocument).markers =
      [.str "JS lines 4 to 5", .str "JS lines 5 to 5", .str "JS lines 5 to 5"] := by rfl
  have hmarker : .str "JS lines 5 to 5" ∈ (Json.obj countdownDocument).markers := by
    simp [hmarkers]
  have hfault : (countdown test).compile = .error ⟨.forStep, some place⟩ := by cbv
  have hplaced : ∀ node ∈ (countdown test).toNode.walk, node.span ≠ none := by decide
  exact ⟨⟨hdocument, hplain, hmarker, (locations_of_nodes _).1 _ hdocument hplain _ hmarker⟩,
    hfault, hplaced, ((locations_of_nodes _).2 _ hfault).2 hplaced (by decide)⟩

end PfaScript
