import PfaScript.Proofs.Uniform

/-!
# No construct is passed over

A script that gives a document has no unknown construct anywhere in its tree
(`unsupported_refused`), because every statement of the script adds an entry, and an entry accounts
for all nodes below its statement (`Results.entry_accounts`).
-/

namespace PfaScript

theorem Node.known_walkAll {nodes : List Node} (h : ∀ node ∈ nodes, Known node.walk) :
    Known (walkAll nodes) := by
  intro below hbelow
  rw [walkAll_eq] at hbelow
  obtain ⟨node, hnode, hbelow⟩ := List.mem_flatMap.mp hbelow
  exact h node hnode below hbelow

/-- A script that gives a document has known constructs only. -/
theorem Program.known_of_compile {program : Program} {document : Entries String Json}
    (h : program.compile = .ok document) : Node.Known program.toNode.walk := by
  have hbody : Node.Known (Node.walkAll program.body) := by
    refine Node.known_walkAll fun statement hstatement => ?_
    obtain ⟨d, key, v, hentry⟩ :=
      Document.exists_entry_of_gathered (compile_eq_ok_iff.mp h).1 statement hstatement
    exact ((Results.entry_accounts d statement).of_ok (fun _ _ => trivial) hentry).1
  rw [toNode, Node.walk]
  exact hbody.cons rfl

/-- **No construct is passed over.** A script with an unknown construct anywhere in its tree is
refused. -/
theorem Program.unsupported_refused (program : Program)
    (h : ∃ node ∈ program.toNode.walk, node.isUnsupported = true) :
    ∃ fault, program.compile = .error fault := by
  obtain ⟨node, hnode, hunsupported⟩ := h
  cases hcompile : program.compile with
  | error fault => exact ⟨fault, rfl⟩
  | ok document =>
      have hknown := known_of_compile hcompile node hnode
      rw [hunsupported] at hknown
      cases hknown

/-- The script `action = function(input) { pool("p", [], 1, yield); };`. -/
def Program.initialYield : Program :=
  let call : Node := .call none (.identifier none "pool")
    [.literal none none (.str "p") .null, .array none [], .literal none none (.int 1) .null,
      .unsupported none "YieldExpression" []]
  ⟨none, [.expressionStatement none (.assignment none "=" (.identifier none "action")
    (.function none [⟨.identifier none "input", none⟩]
      (.block none [.expressionStatement none call]) none none ⟨false, false, false⟩))]⟩

theorem Program.unsupported_refused_initialYield :
    (∃ node ∈ initialYield.toNode.walk, node.isUnsupported = true) ∧
      ∃ fault, initialYield.compile = .error fault := by
  have h : ∃ node ∈ initialYield.toNode.walk, node.isUnsupported = true := by decide
  exact ⟨h, unsupported_refused initialYield h⟩

end PfaScript
