import PfaScript.Proofs.Alike

/-!
# Dialects of scripts

A script may be written in several dialects: its nodes in any of their encodings, and the whole
script within a file or not. Whichever way it is written, it is read as the same tree up to written
forms, and so translated to the same document (`Program.dialect_independent`).

Two things that look like dialects are none (`Program.method_or_inner_file_matters`). An entry of an
object literal that is marked as a method is one, although its kind is that of a plain entry; and
only the whole script is looked for in a file.
-/

namespace PfaScript

open Node (relabel)

open Spelling

namespace Load

/-- The script that a node is. -/
def script : Node → Except LoadError Program
  | .program span body => .ok ⟨span, body⟩
  | node => .error (.malformed (.notAProgram node.tag))

theorem script_relabel (tree : Node) :
    script (relabel .placed tree) = (script tree).map (Program.relabel .placed) := by
  cases tree <;> rfl

theorem script_same {tree tree' : Node} (h : relabel .placed tree = relabel .placed tree') :
    SameBy (Program.relabel .placed) (script tree) (script tree') :=
  .of_map_eq (by rw [← script_relabel, ← script_relabel, h]) fun _ _ => trivial

theorem load_file {fields : Entries String Json} (h : Tagged fields "File") :
    Program.load (.obj fields) = node ((fields.get? "program").getD .null) >>= script := by
  rw [Tagged] at h
  simp only [Program.load, h]
  exact bind_congr fun tree => by cases tree <;> rfl

theorem load_of_ne_file {v : Json} (h : v.field? "type" ≠ some (.str "File")) :
    Program.load v = node v >>= script := by
  cases v with
  | obj fields =>
      unfold Program.load
      dsimp only
      split
      · next hfile => exact absurd hfile h
      · exact bind_congr fun tree => by cases tree <;> rfl
  | _ => rfl

/-- The program of a file must be there, like any other child. -/
theorem node_getD_same (tag key : String) (field : Option Json) :
    SameBy (relabel .placed) (node (field.getD .null)) (childOf tag key field) := by
  rcases field with _ | v
  · exact .error
  · rw [childOf]
    split
    · next h =>
      cases v <;> simp [Json.isNull] at h
      exact .error
    · exact .refl _

theorem exists_fields {v u : Json} {key : String} (h : v.field? key = some u) :
    ∃ fields, v = .obj fields := by
  cases v with
  | obj fields => exact ⟨fields, rfl⟩
  | _ => cases h

/-- A script is read from the node it is, or from the program that a file has. -/
theorem load_same_of_alike {v w : Json} (h : Alike v w) :
    SameBy (Program.relabel .placed) (Program.load v) (Program.load w) := by
  have hiff : v.field? "type" = some (.str "File") ↔ w.field? "type" = some (.str "File") :=
    h.unknown rfl
  by_cases hfile : v.field? "type" = some (.str "File")
  · obtain ⟨fields, rfl⟩ := exists_fields hfile
    obtain ⟨fields', rfl⟩ := exists_fields (hiff.mp hfile)
    rw [load_file hfile, load_file (hiff.mp hfile)]
    refine Related.bind ?_ fun _ _ => script_same
    exact (node_getD_same "File" "program" _).trans
      ((h.parts rfl hfile "File" "File" "program").trans (node_getD_same _ _ _).symm)
  · rw [load_of_ne_file hfile, load_of_ne_file (mt hiff.mpr hfile)]
    exact h.node.bind fun _ _ => script_same

/-- Whichever way a script is written, it is read alike. -/
theorem load_same {v w : Json} (h : SameScript v w) :
    SameBy (Program.relabel .placed) (Program.load v) (Program.load w) := by
  induction h with
  | respelled h => exact load_same_of_alike (alike_of_respelled h)
  | file hfile hprogram htag =>
      rw [load_file hfile, hprogram, load_of_ne_file]
      · exact .refl _
      · rw [Json.field?, htag]
        simp
  | symm _ ih => exact ih.symm
  | trans _ _ ih ih' => exact ih.trans ih'

end Load

namespace Program

/-- **A script is read and translated alike, whichever way it is written.** -/
theorem dialect_independent {v w : Json} (h : SameScript v w) {program : Program}
    (hload : Program.load v = .ok program) :
    ∃ other, Program.load w = .ok other ∧ other.relabel .placed = program.relabel .placed ∧
      ∀ withLocations, other.document withLocations = program.document withLocations := by
  have hsame := Load.load_same h
  rw [hload] at hsame
  cases hother : Program.load w with
  | error e =>
      rw [hother] at hsame
      cases hsame
  | ok other =>
      rw [hother] at hsame
      cases hsame with
      | ok hforms =>
          refine ⟨other, rfl, hforms.symm, fun withLocations => ?_⟩
          rw [← other.document_placed, ← program.document_placed, hforms]

end Program

/-! ### A script in two dialects -/

namespace Spelling

/-- A node with these fields. -/
def tree (tag : String) (fields : Entries String Json) : Json :=
  .obj (("type", .str tag) :: fields)

/-- An identifier. -/
def name (text : String) : Json := tree "Identifier" [("name", .str text)]

/-- The type of truth values, as a literal with this tag. -/
def boolean (tag : String) : Json := tree tag [("value", .str "boolean")]

/-- A statement that assigns a field of a document. -/
def assign (target : String) (value : Json) : Json :=
  tree "ExpressionStatement" [("expression", tree "AssignmentExpression"
    [("operator", .str "="), ("left", name target), ("right", value)])]

/-- A function with these parameters and one expression. -/
def function (params : Entries String Json) (value : Json) : Json :=
  tree "FunctionExpression" (params ++
    [("body", tree "BlockStatement" [("body", .arr [tree "ExpressionStatement"
      [("expression", value)]])])])

/-- The entry `both: value >> "boolean"` of an object literal. -/
def entry (tag : String) (fields : Entries String Json) (value : Json) : Json :=
  tree tag (fields ++ [("key", name "both"), ("value", tree "BinaryExpression"
    [("operator", .str ">>"), ("left", value), ("right", boolean "Literal")])])

/-- The script

    input = "boolean";
    output = "boolean";
    action = function (input) { both(input, input); };
    fcns = {entry};
-/
def script (entry : Json) : Json :=
  tree "Program" [("body", .arr [
    assign "input" (boolean "Literal"), assign "output" (boolean "Literal"),
    assign "action" (function [("params", .arr [name "input"])] (tree "CallExpression"
      [("callee", name "both"), ("arguments", .arr [name "input", name "input"])])),
    assign "fcns" (tree "ObjectExpression" [("properties", .arr [entry])])])]

/-- A script in a file. -/
def file (program : Json) : Json := tree "File" [("program", program)]

/-- The expression `x && y`. -/
def conjunction (tag : String) : Json :=
  tree tag [("operator", .str "&&"), ("left", name "x"), ("right", name "y")]

/-- `function (x = "boolean", y = "boolean") { x && y; }`, with the default values beside the
parameters. -/
def beside : Json :=
  function [("params", .arr [name "x", name "y"]),
    ("defaults", .arr [boolean "Literal", boolean "Literal"])] (conjunction "BinaryExpression")

/-- A parameter with a default value. -/
def pattern (target initial : Json) : Json :=
  tree "AssignmentPattern" [("left", target), ("right", initial)]

/-- The function `beside` with the default values in patterns, the first of them with this tag. -/
def among (tag operatorTag : String) : Json :=
  function [("params", .arr [pattern (name "x") (boolean tag),
    pattern (name "y") (boolean "Literal")])] (conjunction operatorTag)

theorem isPlain_name (text : String) : IsPlain (name text) := by
  simp [IsPlain, name, tree, Json.field?, Entries.get?]

theorem isAssignment_pattern (target initial : Json) :
    IsAssignment (pattern target initial) target initial :=
  ⟨[("type", .str "AssignmentPattern"), ("left", target), ("right", initial)], rfl, rfl, rfl, rfl,
    none, rfl⟩

theorem respelled_defaults : Respelled beside (among "Literal" "BinaryExpression") := by
  let initial := boolean "Literal"
  have hinitial : initial ≠ .null := by simp [initial, boolean, tree]
  have hbeside : Parameters [(name "x", initial), (name "y", initial)] .null
      [name "x", name "y"] [initial, initial] .null := by
    refine @Parameters.beside _ _ _ _ _ [initial, initial] (isPlain_name _) ?_
    refine @Parameters.beside _ _ _ _ _ [initial] (isPlain_name _) (.nil ?_)
    simp
  have hamong : Parameters [(name "x", initial), (name "y", initial)] .null
      [pattern (name "x") initial, pattern (name "y") initial] [] .null := by
    refine .assignment (isPlain_name _) hinitial (isAssignment_pattern _ _) rfl ?_
    refine .assignment (isPlain_name _) hinitial (isAssignment_pattern _ _) rfl (.nil ?_)
    simp
  refine .encoding (.function rfl ⟨_, _, .inl rfl, .inl rfl, hbeside⟩ rfl
    ⟨_, _, .inl rfl, .inr ⟨rfl, rfl⟩, hamong⟩ ?_) rfl
  simp [SameAt, Entries.get?]

/-- The default values move among the parameters, where one of them gets a tag for its type, and
the conjunction gets one for its operator. -/
theorem respelled_function : Respelled beside (among "StringLiteral" "LogicalExpression") := by
  have hliteral : Respelled (boolean "Literal") (boolean "StringLiteral") :=
    .symm (.encoding (.typed (.inl rfl) rfl rfl rfl rfl (by simp [Entries.get?])) rfl)
  have hdefault : Respelled (among "Literal" "BinaryExpression")
      (among "StringLiteral" "BinaryExpression") :=
    @Respelled.field [_] [_] "params" _ _ (by decide)
      (@Respelled.item [] [_] _ _ (@Respelled.field [_, _] [] "right" _ _ (by decide) hliteral))
  have hconjunction :
      Respelled (conjunction "BinaryExpression") (conjunction "LogicalExpression") :=
    .symm (.encoding (.logical rfl rfl (by simp [SameAt, Entries.get?])) rfl)
  have hbody : Respelled (among "StringLiteral" "BinaryExpression")
      (among "StringLiteral" "LogicalExpression") :=
    @Respelled.field [_, _] [] "body" _ _ (by decide)
      (@Respelled.field [_] [] "body" _ _ (by decide)
        (@Respelled.item [] [] _ _
          (@Respelled.field [_] [] "expression" _ _ (by decide) hconjunction)))
  exact respelled_defaults.trans (hdefault.trans hbody)

/-- The function is written in another way within its entry, then the entry within the script, and
then the script is put into a file. -/
theorem sameScript_file : SameScript (script (entry "Property" [("kind", .str "init")] beside))
    (file (script (entry "ObjectProperty" [] (among "StringLiteral" "LogicalExpression")))) := by
  have hfunction : Respelled (entry "Property" [("kind", .str "init")] beside)
      (entry "Property" [("kind", .str "init")] (among "StringLiteral" "LogicalExpression")) :=
    @Respelled.field [_, _, _] [] "value" _ _ (by decide)
      (@Respelled.field [_, _] [_] "left" _ _ (by decide) respelled_function)
  have hentry : Respelled
      (entry "Property" [("kind", .str "init")] (among "StringLiteral" "LogicalExpression"))
      (entry "ObjectProperty" [] (among "StringLiteral" "LogicalExpression")) :=
    .symm (.encoding (.property rfl rfl rfl rfl rfl (by simp [Entries.get?])
      (by simp [SameAt, Entries.get?])) rfl)
  have hscript : Respelled (script (entry "Property" [("kind", .str "init")] beside))
      (script (entry "ObjectProperty" [] (among "StringLiteral" "LogicalExpression"))) :=
    @Respelled.field [_] [] "body" _ _ (by decide)
      (@Respelled.item [_, _, _] [] _ _
        (@Respelled.field [_] [] "expression" _ _ (by decide)
          (@Respelled.field [_, _, _] [] "right" _ _ (by decide)
            (@Respelled.field [_] [] "properties" _ _ (by decide)
              (@Respelled.item [] [] _ _ (hfunction.trans hentry))))))
  exact .trans (.respelled hscript) (.symm (.file rfl rfl rfl))

end Spelling

namespace Program

/-- The tree of `script`. -/
def both : Program :=
  let boolean : Node := .literal none none (.str "boolean") .null
  let name (value : String) : Node := .identifier none value
  let field (key : String) (value : Node) : Node :=
    .expressionStatement none (.assignment none "=" (name key) value)
  let function (params : List (Param Node)) (value : Node) : Node :=
    .function none params (.block none [.expressionStatement none value]) none none
      ⟨false, false, false⟩
  let typed (param : String) : Param Node := ⟨name param, some boolean⟩
  ⟨none,
    [field "input" boolean, field "output" boolean,
      field "action" (function [⟨name "input", none⟩]
        (.call none (name "both") [name "input", name "input"])),
      field "fcns" (.object none [.property none (name "both")
        (.binary none ">>" (function [typed "x", typed "y"]
          (.binary none "&&" (name "x") (name "y"))) boolean) "init" false])]⟩

theorem dialect_independent_both :
    SameScript (script (entry "Property" [("kind", .str "init")] beside))
        (file (script (entry "ObjectProperty" []
          (among "StringLiteral" "LogicalExpression")))) ∧
      load (script (entry "Property" [("kind", .str "init")] beside)) = .ok both ∧
      ∃ other,
        load (file (script (entry "ObjectProperty" []
          (among "StringLiteral" "LogicalExpression")))) = .ok other ∧
        other.relabel .placed = both.relabel .placed ∧
        ∀ withLocations, other.document withLocations = both.document withLocations :=
  ⟨sameScript_file, rfl, dialect_independent sameScript_file rfl⟩

/-- The document of `both`. -/
def bothDocument : Entries String Json :=
  [("input", .str "boolean"), ("output", .str "boolean"),
    ("action", .arr [.obj [("both", .arr [.str "input", .str "input"])]]),
    ("fcns", .obj [("both", .obj [
      ("params", .arr [.obj [("x", .str "boolean")], .obj [("y", .str "boolean")]]),
      ("ret", .str "boolean"), ("do", .arr [.obj [("and", .arr [.str "x", .str "y"])]])])])]

/-- An entry of kind `init` that is marked as a method is refused where the plain entry is
translated, and a script in a file in a file is not read. -/
theorem method_or_inner_file_matters :
    (∃ program,
      load (script (entry "Property" [("kind", .str "init"), ("method", .bool true)] beside)) =
        .ok program ∧ program.compile = .error ⟨.objectKey, none⟩) ∧
      load (script (entry "ObjectProperty" [] beside)) = .ok both ∧
      both.compile = .ok bothDocument ∧
      load (file (script (entry "ObjectProperty" [] beside))) = .ok both ∧
      load (file (file (script (entry "ObjectProperty" [] beside)))) =
        .error (.malformed (.notAProgram "File")) := by
  refine ⟨⟨_, rfl, ?_⟩, rfl, ?_, rfl, rfl⟩
  · cbv
  · cbv

end Program

end PfaScript
