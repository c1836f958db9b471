import Mathlib
import PfaScript.Proofs.Grammar
import PfaScript.Proofs.Provenance

/-!
# Compiled terms belong to the grammar

Where a tree has no literal with parts and no name that is the key of markers (`Node.Fits`), every
term that is compiled from it belongs to the grammar, with markers that are worded as the places of
the tree's nodes: each form that the compiler builds is one of the grammar's, if its parts are
(`Node.derivation_closed`).
-/

namespace PfaScript

open Json (MarkersIn)

variable {M : String → Prop}

namespace Grammar

/-- Results that belong to the grammar, with markers that `M` allows. -/
def grammatical (M : String → Prop) : Results where
  place span := ∀ place ∈ span, M place.describe
  name name := name ≠ markerKey
  value := MarkersIn M
  parameter := Parameter M
  term := Expression M
  operand := Operand M
  definition := Definition M
  branch := Branch M
  statement := Statement M

/-! ### Forms -/

/-- The entries have different names. -/
theorem named_of_bound {P : Json → Prop} {entries : List (String × Json)}
    (h : (grammatical M).Bound P entries) : Named (Entries.ofList entries) :=
  named_ofList fun entry hentry => (h entry hentry).1

theorem expression_of_bound {entries : List (String × Json)}
    (h : (grammatical M).Bound (Expression M) entries) :
    ∀ entry ∈ Entries.ofList entries, Expression M entry.2 :=
  fun entry hentry => (h entry (Entries.mem_of_mem_ofList hentry)).2

theorem expression_literalTerm {span : Option Span} {value : Json}
    (hspan : ∀ place ∈ span, M place.describe) (hvalue : value.isScalar = true) :
    Expression M (literalTerm span value) := by
  cases value with
  | null => exact .null
  | bool b => exact .bool b
  | int n => exact .int n
  | float x => exact .float x
  | str text => exact .text text (mapping_tagged hspan)
  | arr items => cases hvalue
  | obj fields => cases hvalue

theorem conditionalTerm_statement {span : Option Span} {first : Entries String Json}
    {others : List (Entries String Json)} {otherwise : Option (List Json)}
    (hspan : ∀ place ∈ span, M place.describe) (hfirst : Branch M (.obj first))
    (hbranches : ∀ branch ∈ others, Branch M (.obj branch))
    (hotherwise : ∀ body ∈ otherwise, ∀ item ∈ body, Statement M item) :
    Statement M (conditionalTerm span first others otherwise) := by
  cases others with
  | nil =>
      cases otherwise with
      | none => exact .conditional hfirst
      | some body =>
          rw [conditionalTerm_some, choice_nil]
          cases hfirst with
          | branch htest hbody h =>
              exact .conditionalElse htest hbody (hotherwise body rfl)
                (h.insert (by simp) (by decide) (.arr body))
  | cons second rest =>
      have hall : ∀ branch ∈ (first :: second :: rest).map Json.obj, Branch M branch := by
        intro branch hbranch
        obtain ⟨entries, hentries, rfl⟩ := List.mem_map.mp hbranch
        rcases List.mem_cons.mp hentries with rfl | hrest
        · exact hfirst
        · exact hbranches entries hrest
      have hlength : 2 ≤ ((first :: second :: rest).map Json.obj).length := by simp
      have hmapping : Mapping M [("cond", .arr ((first :: second :: rest).map Json.obj))]
          (.obj (choice span first (second :: rest))) := mapping_taggedEntries hspan
      cases otherwise with
      | none => exact .choice hlength hall hmapping
      | some body =>
          rw [conditionalTerm_some]
          exact .choiceElse hlength hall (hotherwise body rfl)
            (hmapping.insert (by simp) (by decide) (.arr body))

end Grammar

/-! ### All expressions and statements -/

open Grammar

namespace Node

/-- Every form that the compiler builds belongs to the grammar if its parts do. -/
theorem derivation_closed (M : String → Prop) : (grammatical M).Closed (Fits M) where
  place h := h.1
  variableName := Node.identifier_ne_markerKey
  fixedName h := h
  literalValue := (uniform_markersIn M).closed.literalValue
  negated := (uniform_markersIn M).closed.negated
  items := (uniform_markersIn M).closed.items
  mapping := (uniform_markersIn M).closed.mapping
  parameter {name type} hname htype := ⟨name, type, hname, htype, rfl⟩
  literal h := expression_literalTerm h.1 h.2
  identifier := .name
  one := .int 1
  always := .bool true
  string text hspan := .text text (mapping_tagged hspan)
  part hspan hroot hne hpath := .part hroot hne hpath (mapping_taggedEntries hspan)
  partTo {span root value path} hspan hroot hne hpath hvalue := by
    have htarget : Mapping M [("attr", root), ("path", .arr path)]
        (.obj (attributeEntries span root path)) := mapping_taggedEntries hspan
    exact .partTo hroot hne hpath hvalue (htarget.insert (by simp) (by decide) value)
  application hspan hname harguments :=
    .application hname harguments (mapping_tagged hspan (by simp [Named, Ne.symm hname]))
  conditional hspan htest hfirst hsecond := .conditional htest hfirst hsecond (mapping_tagged hspan)
  slot store name hspan := .slot store name (mapping_tagged hspan (named_slot store))
  slotPart store name hspan hpath :=
    .slotPart store name hpath (mapping_tagged hspan (named_slot store))
  slotTo store name hspan hpath hvalue :=
    .slotTo store name hpath hvalue (mapping_tagged hspan (named_slot store))
  poolInit name hspan hpath hvalue hinitial := .poolInit name hpath hvalue hinitial
    (mapping_tagged hspan (named_slot .pools))
  doc text hspan := .doc text (mapping_tagged hspan)
  newItems hspan hitems htype := .newItems hitems htype (mapping_tagged hspan)
  newEntries hspan hentries htype := .newEntries (named_of_bound hentries)
    (expression_of_bound hentries) htype (mapping_tagged hspan)
  binding hspan hbound :=
    .binding (named_of_bound hbound) (expression_of_bound hbound) (mapping_tagged hspan)
  assignment hspan hbound :=
    .assignment (named_of_bound hbound) (expression_of_bound hbound) (mapping_tagged hspan)
  block hspan hbody := .block hbody (mapping_tagged hspan)
  ofTerm := .expression
  ofFunction h := .function (.definition h)
  reference name hspan := .function (.reference name (mapping_tagged hspan))
  definition hspan hparams hret hbody := .definition hparams hret hbody (mapping_tagged hspan)
  branch hspan htest hbody := .branch htest hbody (mapping_taggedEntries hspan)
  choice := conditionalTerm_statement
  expression := .expression
  whileLoop hspan htest hbody := .whileLoop htest hbody (mapping_tagged hspan)
  untilLoop hspan hplace htest hbody :=
    .untilLoop hbody htest (mapping_tagged hplace) (mapping_tagged hspan)
  forLoop hspan hbound htest hne hchanges hbody := .forLoop (named_of_bound hbound)
    (expression_of_bound hbound) htest (named_of_bound hchanges) (Entries.ofList_ne_nil hne)
    (expression_of_bound hchanges) hbody (mapping_tagged hspan)
  forEach name hspan hcollection hbody := .forEach name hcollection hbody (mapping_tagged hspan)
  error text hspan := .error text (mapping_tagged hspan)

theorem statements_statement {nodes : List Node} {items : List Json}
    (hfit : AllFit M (walkAll nodes)) (h : statements nodes = .ok items) :
    ∀ item ∈ items, Statement M item :=
  (derivation_closed M).of_statements nodes hfit items h

theorem allFit_of_isPlain {nodes : List Node} (h : ∀ node ∈ nodes, node.isPlain = true) :
    AllFit (fun _ => True) nodes :=
  fun node hnode => ⟨fun _ _ => trivial, h node hnode⟩

/-- **The grammar of compiled terms.** Where a tree has no literal with parts and no name that is
the key of markers, what is compiled from it belongs to the grammar, in which objects may start with
any text as a marker: expressions, expressions in places where a function can be given too,
definitions of functions, and lists of statements. -/
theorem compiled_in_grammar :
    (∀ node : Node, (∀ m ∈ node.walk, m.isPlain = true) →
      (∀ v, term node = .ok v → Expression (fun _ => True) v) ∧
      (∀ v, operand node = .ok v → Operand (fun _ => True) v) ∧
      ∀ v, definition node = .ok v → Definition (fun _ => True) v) ∧
    ∀ nodes : List Node, (∀ m ∈ walkAll nodes, m.isPlain = true) →
      ∀ items, statements nodes = .ok items → ∀ item ∈ items, Statement (fun _ => True) item := by
  have hclosed := derivation_closed fun _ => True
  refine ⟨fun node hplain => ?_, fun nodes hplain items h => ?_⟩
  · have hfit := allFit_of_isPlain hplain
    exact ⟨hclosed.of_term node hfit, hclosed.of_operand node hfit,
      hclosed.of_definition node hfit⟩
  · exact statements_statement (allFit_of_isPlain hplain) h

/-- The statement `for (var i = 0; i < 3; i++) x[i] = fcn(f);`, of which only the place of the whole
is known. -/
def fillLoop : Node :=
  .forLoop (some ⟨1, 0, 1, 43⟩)
    (some (.declaration none
      [⟨none, .identifier none "i", some (.literal none none (.int 0) .null)⟩] "var"))
    (some (.binary none "<" (.identifier none "i") (.literal none none (.int 3) .null)))
    (some (.update none "++" (.identifier none "i") false))
    (.expressionStatement none
      (.assignment none "=" (.member none (.identifier none "x") (.identifier none "i") true)
        (.call none (.identifier none "fcn") [.identifier none "f"])))

/-- What `fillLoop` is compiled to. -/
def fillLoopTerm : Json :=
  .obj [("@", .str "JS lines 1 to 1"), ("for", .obj [("i", .int 0)]),
    ("while", .obj [("<", .arr [.str "i", .int 3])]),
    ("step", .obj [("i", .obj [("+", .arr [.str "i", .int 1])])]),
    ("do", .arr [.obj [("attr", .str "x"), ("path", .arr [.str "i"]),
      ("to", .obj [("fcn", .str "f")])]])]

theorem compiled_in_grammar_fillLoop :
    (∀ m ∈ walkAll [fillLoop], m.isPlain = true) ∧ statements [fillLoop] = .ok [fillLoopTerm] ∧
      Statement (fun _ => True) fillLoopTerm ∧
      (∀ m ∈ (Node.identifier none "x").walk, m.isPlain = true) ∧
      term (.identifier none "x") = .ok (.str "x") ∧ Expression (fun _ => True) (.str "x") := by
  have hplain : ∀ m ∈ walkAll [fillLoop], m.isPlain = true := by decide
  have hterm : statements [fillLoop] = .ok [fillLoopTerm] := by cbv
  have hname : ∀ m ∈ (Node.identifier none "x").walk, m.isPlain = true := by decide
  have hvariable : term (.identifier none "x") = .ok (.str "x") := by rw [term]
  exact ⟨hplain, hterm, compiled_in_grammar.2 _ hplain _ hterm _ List.mem_cons_self, hname,
    hvariable, (compiled_in_grammar.1 _ hname).1 _ hvariable⟩

end Node

end PfaScript
