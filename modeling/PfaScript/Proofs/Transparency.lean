import PfaScript.Proofs.Induction
import PfaScript.Proofs.LikeTree

/-!
# Trees that are alike compile alike

The outcomes of compiling two trees that are alike agree (`Likeness.Agree`): both stop for the same
cause at places that are alike, or both give a result, and the results are alike.

For the functions that compile expressions and statements this is the induction over the compiler,
with the motive `Node.likeness`.
-/

namespace PfaScript

variable {L : Likeness}

namespace Likeness

variable {span span' : Option Span}

/-! ### Terms made of terms -/

/-- An application is made of its arguments. -/
theorem application_same {arguments others : List Json} (h : L.Items arguments others)
    (hplace : L.Place span span') (function : String) :
    L.Same (application span function arguments) (application span' function others) :=
  (Fields.cons function h.arr .nil).tagged hplace

/-- The term of a literal depends on its value and its place only. -/
theorem literalTerm_same (hplace : L.Place span span') (value : Json) :
    L.Same (literalTerm span value) (literalTerm span' value) := by
  cases value with
  | str text => exact (Fields.cons "string" (.refl _) .nil).tagged hplace
  | _ => exact .refl _

/-- Attributes with bases and paths that are alike are alike. -/
theorem attributeEntries_same {base base' : Json} {path path' : List Json}
    (hbase : L.Same base base') (hpath : L.Items path path') (hplace : L.Place span span') :
    L.Fields (attributeEntries span base path) (attributeEntries span' base' path') :=
  (Fields.cons "attr" hbase (.cons "path" hpath.arr .nil)).taggedEntries hplace

/-- Whether a stored value is refused does not depend on markers. -/
theorem assigned_agree {target target' value value' : Json} (htarget : L.Same target target')
    (hvalue : L.Same value value') (hplace : L.Place span span') (operator : String) :
    L.Agree L.Same (assigned span operator target value)
      (assigned span' operator target' value') := by
  unfold assigned
  cases compoundFunction? operator with
  | none => exact .ok hvalue
  | some function =>
      simp only [← hvalue.isFunctionDefinition_eq]
      refine .ite (fun _ => .error rfl hplace) fun _ => ?_
      exact .ok (application_same (.cons htarget (.cons hvalue .nil)) hplace function)

/-- Counting up and down depends on the operator only. -/
theorem updated_agree (hplace : L.Place span span') (operator name : String) (cause : Cause) :
    L.Agree L.Same (updated span operator name ⟨cause, span⟩)
      (updated span' operator name ⟨cause, span'⟩) := by
  unfold updated
  cases updateFunction? operator with
  | none => exact .error rfl hplace
  | some function =>
      exact .ok (application_same (.cons (.refl _) (.cons (.refl _) .nil)) hplace function)

/-- A variable that is set to values that are alike. -/
theorem set_same {v w : Json} (h : L.Same v w) (hplace : L.Place span span') (name : String) :
    L.Same (tagged span [("set", .obj [(name, v)])]) (tagged span' [("set", .obj [(name, w)])]) :=
  (Fields.cons "set" (Fields.cons name h .nil).obj .nil).tagged hplace

/-- A branch is made of its test and its statements. -/
theorem branch_same {test test' : Json} {body body' : List Json} (htest : L.Same test test')
    (hbody : L.Items body body') (hplace : L.Place span span') :
    L.Fields (branch span test body) (branch span' test' body') :=
  (Fields.cons "if" htest (.cons "then" hbody.arr .nil)).taggedEntries hplace

/-- Branches that are alike are alike as a list. -/
theorem map_obj_items {branches others : List (Entries String Json)}
    (h : List.Forall₂ L.Fields branches others) :
    L.Items (branches.map Json.obj) (others.map Json.obj) := by
  induction h with
  | nil => exact .nil
  | cons hfirst _ ih => exact .cons hfirst.obj ih

/-- A conditional term is made of its branches and what is done otherwise. -/
theorem conditionalTerm_same {first first' : Entries String Json}
    {others others' : List (Entries String Json)} {otherwise otherwise' : Option (List Json)}
    (hfirst : L.Fields first first') (hothers : List.Forall₂ L.Fields others others')
    (hotherwise : Option.Rel L.Items otherwise otherwise') (hplace : L.Place span span') :
    L.Same (conditionalTerm span first others otherwise)
      (conditionalTerm span' first' others' otherwise') := by
  have hchoice : L.Fields (choice span first others) (choice span' first' others') := by
    cases hothers with
    | nil => exact hfirst
    | cons hsecond hrest =>
        have hall := map_obj_items (.cons hfirst (.cons hsecond hrest))
        exact (Fields.cons "cond" hall.arr .nil).taggedEntries hplace
  cases hotherwise with
  | none => exact hchoice.obj
  | some hbody => exact (hchoice.insert "else" hbody.arr).obj

/-- Two bases with paths from them are alike. -/
def Path (L : Likeness) (v w : Json × List Json) : Prop := L.Same v.1 w.1 ∧ L.Items v.2 w.2

/-- Two lists of branches with what is done otherwise are alike. -/
def Alternatives (L : Likeness) (v w : List (Entries String Json) × Option (List Json)) : Prop :=
  List.Forall₂ L.Fields v.1 w.1 ∧ Option.Rel L.Items v.2 w.2

/-- Two changes of a variable are alike. -/
def Change (L : Likeness) (v w : String × Json) : Prop := v.1 = w.1 ∧ L.Same v.2 w.2

end Likeness

open Likeness (Fields application_same attributeEntries_same assigned_agree updated_agree set_same
  branch_same conditionalTerm_same)

open Node (Like Kept ParamRel)

/-! ### Names and constants -/

/-- The keys of entries are the same, or refused alike. -/
theorem propertyKey_agree {span span' : Option Span} {key key' : Node} (h : Like L key key')
    (hplace : L.Place span span') (kind : String) (computed : Bool) :
    L.Agree Eq (propertyKey span key kind computed) (propertyKey span' key' kind computed) := by
  -- the key of markers is refused, whichever way it is written
  have hname (name : String) : L.Agree Eq
      (if name = markerKey then .error ⟨.reservedKey, span⟩ else .ok name)
      (if name = markerKey then .error ⟨.reservedKey, span'⟩ else .ok name) :=
    .ite (fun _ => .error rfl hplace) fun _ => .ok rfl
  unfold propertyKey
  refine .ite (fun _ => .error rfl hplace) fun _ => ?_
  cases h with
  | @literal _ _ _ _ value =>
      cases value with
      | str text => exact hname text
      | _ => exact .error rfl hplace
  | identifier => exact hname _
  | _ => exact .error rfl hplace

/-- An entry of an object literal agrees if its value does, whatever is made of it. -/
theorem property_agree {span span' : Option Span} {key key' : Node}
    {make make' : String → Except Fault Json}
    {rest rest' : Except Fault (List (String × Json))} (hkey : Like L key key')
    (hplace : L.Place span span') (kind : String) (computed : Bool)
    (hmake : ∀ name, L.Agree L.Same (make name) (make' name))
    (hrest : L.Agree L.Fields rest rest') :
    L.Agree L.Fields
      (do
        let name ← propertyKey span key kind computed
        let first ← make name
        return (name, first) :: (← rest))
      (do
        let name ← propertyKey span' key' kind computed
        let first ← make' name
        return (name, first) :: (← rest')) := by
  refine (propertyKey_agree hkey hplace kind computed).bind fun name _ hname => ?_
  subst hname
  refine (hmake name).bind fun _ _ hfirst => hrest.bind fun _ _ hrest => ?_
  exact .ok (.cons name hfirst hrest)

/-- A minus sign before a literal makes the same number. -/
theorem negatedLiteral?_eq {argument argument' : Node} (h : Like L argument argument')
    (operator : String) :
    negatedLiteral? operator argument' = negatedLiteral? operator argument := by
  by_cases hop : operator = "-"
  · subst hop
    cases h <;> rfl
  · simp [negatedLiteral?, hop]

namespace Node

/-- Called functions have the same name, however it is written. -/
theorem functionName_agree {node other : Node} (h : Like L node other) :
    L.Agree Eq node.functionName other.functionName := by
  cases node with
  | identifier =>
      cases h
      exact .ok rfl
  | member =>
      cases h with
      | member hplace hbase haccess =>
          rw [functionName, functionName]
          refine .ite (fun _ => .error rfl hplace) fun _ => ?_
          refine (functionName_agree hbase).bind fun left left' hleft => ?_
          refine (functionName_agree haccess).bind fun right right' hright => ?_
          subst hleft hright
          exact .ok rfl
  | _ =>
      have hplace := h.place
      cases h
      exact .error rfl hplace

mutual

/-- Constants are alike, or refused alike. -/
theorem constant_agree {node other : Node} (h : Like L node other) :
    L.Agree L.Same node.constant other.constant := by
  cases node with
  | literal =>
      cases h with
      | literal hplace =>
          rw [constant, constant]
          exact .ite (fun _ => .error rfl hplace) fun _ => .ok (.refl _)
  | unary span operator argument leading =>
      cases h with
      | unary hplace hargument =>
          rw [constant, constant, negatedLiteral?_eq hargument]
          cases negatedLiteral? operator argument with
          | none => exact .error rfl hplace
          | some number => exact .ok (.refl _)
  | array =>
      cases h with
      | array hplace helements =>
          rw [constant, constant]
          exact (constants_agree helements hplace).bind fun _ _ h => .ok h.arr
  | object =>
      cases h with
      | object hplace hproperties =>
          rw [constant, constant]
          exact (constantEntries_agree hproperties).bind fun _ _ h => .ok (h.ofList.tagged hplace)
  | _ =>
      have hplace := h.place
      cases h
      exact .error rfl hplace

/-- So are the elements of constant arrays, in which holes are refused. -/
theorem constants_agree {elements others : List (Option Node)} {span span' : Option Span}
    (h : List.Forall₂ (Option.Rel (Like L)) elements others) (hplace : L.Place span span') :
    L.Agree L.Items (constants span elements) (constants span' others) := by
  match elements with
  | [] =>
      cases h
      exact .ok .nil
  | none :: rest =>
      cases h with
      | cons hfirst _ =>
          cases hfirst
          exact .error rfl hplace
  | some element :: rest =>
      cases h with
      | cons hfirst hrest =>
          cases hfirst with
          | some hfirst =>
              rw [constants, constants]
              refine (constant_agree hfirst).bind fun _ _ hfirst => ?_
              exact (constants_agree hrest hplace).bind fun _ _ hrest => .ok (.cons hfirst hrest)

/-- So are the entries of constant objects. -/
theorem constantEntries_agree {properties others : List Node}
    (h : List.Forall₂ (Like L) properties others) :
    L.Agree L.Fields (constantEntries properties) (constantEntries others) := by
  match properties with
  | [] =>
      cases h
      exact .ok .nil
  | node :: rest =>
      cases h with
      | cons hfirst hrest =>
          have hplace := hfirst.place
          cases node with
          | property =>
              cases hfirst with
              | property _ hkey hvalue =>
                  rw [constantEntries, constantEntries]
                  exact property_agree hkey hplace _ _ (fun _ => constant_agree hvalue)
                    (constantEntries_agree hrest)
          | _ =>
              cases hfirst
              exact .error rfl hplace

end

/-- The parameters of definitions are alike, with their types. -/
theorem typedParams_agree {params others : List (Param Node)}
    (h : List.Forall₂ (ParamRel (Like L)) params others) :
    L.Agree L.Items (typedParams params) (typedParams others) := by
  induction h with
  | nil => exact .ok .nil
  | cons hparam _ ih =>
      obtain ⟨htarget, hinitial⟩ := hparam
      have hplace := htarget.place
      cases htarget with
      | @identifier _ _ name =>
          cases hinitial with
          | none => exact .error rfl hplace
          | some htype =>
              rw [typedParams, typedParams]
              refine (constant_agree htype).bind fun _ _ htype => ih.bind fun _ _ hrest => ?_
              exact .ok (.cons (Fields.cons name htype .nil).obj hrest)
      | _ => exact .error rfl hplace

/-! ### Lists of nodes -/

/-- The same nodes of two lists are texts. -/
theorem map_text?_eq {nodes others : List Node} (h : List.Forall₂ (Like L) nodes others) :
    others.map text? = nodes.map text? := by
  induction h with
  | nil => rfl
  | cons hfirst _ ih => rw [List.map_cons, List.map_cons, hfirst.text?_eq, ih]

/-- Two arrays both have holes or both have none. -/
theorem any_isNone_eq {elements others : List (Option Node)}
    (h : List.Forall₂ (Option.Rel (Like L)) elements others) :
    others.any Option.isNone = elements.any Option.isNone := by
  induction h with
  | nil => rfl
  | cons hfirst _ ih =>
      rw [List.any_cons, List.any_cons, ih]
      cases hfirst <;> rfl

/-- Two lists both consist of steps or both do not. -/
theorem all_isStep_eq {nodes others : List Node} (h : List.Forall₂ (Like L) nodes others) :
    others.all isStep = nodes.all isStep := by
  induction h with
  | nil => rfl
  | cons hfirst _ ih => rw [List.all_cons, List.all_cons, hfirst.isStep_eq, ih]

/-- The parts of two steps are alike one by one. -/
theorem like_stepParts {step other : Option Node} (h : Option.Rel (Like L) step other) :
    List.Forall₂ (Like L) (stepParts step) (stepParts other) := by
  cases h with
  | none => exact .nil
  | some h =>
      cases h with
      | sequence _ hitems => exact hitems
      | _ => exact .cons (by constructor <;> assumption) .nil

/-- Two functions are both plain or both are not. -/
theorem isPlainFunction_eq {id id' rest rest' : Option Node} (hid : Option.Rel (Like L) id id')
    (hrest : Option.Rel (Like L) rest rest') (flags : FunctionFlags) :
    isPlainFunction id' rest' flags = isPlainFunction id rest flags := by
  cases hid <;> cases hrest <;> rfl

/-! ### All expressions and statements -/

/-- What a function of the compiler makes of anything related to its argument agrees with what it
makes of the argument. -/
def Respects {α β : Type} (L : Likeness) (Q : α → α → Prop) (R : β → β → Prop)
    (f : α → Except Fault β) (a : α) : Prop :=
  ∀ b, Q a b → L.Agree R (f a) (f b)

/-- Every function of the compiler respects that its arguments are alike. -/
def likeness (L : Likeness) : Motive where
  term := Respects L (Like L) L.Same term
  operand := Respects L (Like L) L.Same operand
  definition := Respects L (Like L) L.Same definition
  elements := Respects L (List.Forall₂ (Option.Rel (Like L))) L.Items elementTerms
  entries := Respects L (List.Forall₂ (Like L)) L.Fields entryTerms
  operands := Respects L (List.Forall₂ (Like L)) L.Items operands
  accesses base access := ∀ base' access' span span' computed, Like L base base' →
    Like L access access' → L.Place span span' →
    L.Agree L.Path (accesses span base access computed) (accesses span' base' access' computed)
  chain := Respects L (Like L) L.Path chain
  state nodes := ∀ others span span' store most, List.Forall₂ (Like L) nodes others →
    L.Place span span' →
    L.Agree L.Same (stateAccess span store most nodes) (stateAccess span' store most others)
  contents node := ∀ other type type' span span' name, Like L node other → Like L type type' →
    L.Place span span' →
    L.Agree L.Same (newValue span name node type) (newValue span' name other type')
  bindings := Respects L (List.Forall₂ (DeclaratorRel (Like L) L)) L.Fields bindings
  assignments := Respects L (List.Forall₂ (Like L)) L.Fields assignments
  statement := Respects L (Like L) L.Same statement
  statements := Respects L (Kept (Like L)) L.Items statements
  body := Respects L (fun node other => Kept (Like L) (bodyStatements node) (bodyStatements other))
    L.Items statementBody
  alternatives := Respects L (AlternateRel (Like L)) L.Alternatives alternatives
  stepChange := Respects L (Like L) L.Change stepChange
  steps := Respects L (List.Forall₂ (Like L)) L.Fields steps

section steps

variable {span : Option Span} {operator : String}
  {node callee left right test consequent body : Node} {nodes arguments : List Node}
  {alternate : Option Node}

/-! ### Expressions -/

/-- A call agrees in its function, and then in its arguments. -/
theorem call_like (hstate : (likeness L).state arguments)
    (hoperands : (likeness L).operands arguments) :
    (likeness L).term (.call span callee arguments) := by
  intro other hother
  cases hother with
  | call hplace hcallee harguments =>
      rw [term, term, map_text?_eq harguments]
      refine (functionName_agree hcallee).bind fun name _ hname => ?_
      subst hname
      refine .ite (fun _ => hstate _ _ _ _ _ harguments hplace) fun _ => ?_
      refine .ite (fun _ => hstate _ _ _ _ _ harguments hplace) fun _ => ?_
      refine .ite (fun _ => ?_) fun _ => ?_
      · rcases arguments.map text? with _ | ⟨_ | text, _ | ⟨second, rest⟩⟩
        case cons.some.nil =>
          exact .ok ((Fields.cons "doc" (.refl _) .nil).tagged hplace)
        all_goals exact .error rfl hplace
      · exact (hoperands _ harguments).bind fun _ _ h => .ok (application_same h hplace _)

/-- A new value agrees in its constructor, and then in its contents and its type. -/
theorem construct_like (h : ∀ contents ∈ arguments, (likeness L).contents contents) :
    (likeness L).term (.construct span callee arguments) := by
  intro other hother
  cases hother with
  | construct hplace hcallee harguments =>
      cases hcallee with
      | @identifier _ _ name =>
          by_cases hname : name = "Array" ∨ name = "Map" ∨ name = "Record"
          · rcases harguments with _ | ⟨hcontents, _ | ⟨htype, _ | ⟨_, _⟩⟩⟩
            case cons.cons.nil =>
              rw [term, term, if_pos hname, if_pos hname]
              exact h _ List.mem_cons_self _ _ _ _ _ _ hcontents htype hplace
            all_goals
              simp only [term, if_pos hname]
              exact .error rfl hplace
          · rw [term_construct_of_not hname, term_construct_of_not hname]
            exact .error rfl hplace
      | _ =>
          simp only [term]
          exact .error rfl hplace

/-- An assignment agrees in its target, a variable or a path, and in the value that it stores. -/
theorem assignment_like (hright : (likeness L).term right) (hoperand : (likeness L).operand right)
    (hpath : ∀ place base access computed, left = .member place base access computed →
      (likeness L).accesses base access) :
    (likeness L).term (.assignment span operator left right) := by
  intro other hother
  cases hother with
  | assignment hplace hleft hright' =>
      cases hleft with
      | @identifier _ _ name =>
          rw [term, term]
          refine .ite (fun _ => .error rfl hplace) fun _ => ?_
          refine (hright _ hright').bind fun _ _ hvalue => ?_
          refine (assigned_agree (.refl _) hvalue hplace operator).bind fun _ _ h => ?_
          exact .ok (set_same h hplace name)
      | member hplace' hbase haccess =>
          rw [term, term]
          refine .ite (fun _ => .error rfl hplace) fun _ => ?_
          refine (hpath _ _ _ _ rfl _ _ _ _ _ hbase haccess hplace').bind ?_
          rintro ⟨root, path⟩ ⟨root', path'⟩ ⟨hroot, hpath⟩
          have htarget := attributeEntries_same hroot hpath hplace'
          refine (hoperand _ hright').bind fun _ _ hvalue => ?_
          refine (assigned_agree htarget.obj hvalue hplace operator).bind fun _ _ h => ?_
          exact .ok (htarget.insert "to" h).obj
      | _ =>
          simp only [term]
          exact .ite (fun _ => .error rfl hplace) fun _ => .error rfl hplace

/-- An operand is a definition, a reference to a function, or an expression. -/
theorem operand_like (hterm : (likeness L).term node) (hdefinition : (likeness L).definition node) :
    (likeness L).operand node := by
  intro other hother
  rw [operand, operand, hother.isDefinition_eq, hother.functionReference?_eq]
  refine .ite (fun _ => hdefinition _ hother) fun _ => ?_
  cases node.functionReference? with
  | none => exact hterm _ hother
  | some name => exact .ok ((Fields.cons "fcn" (.refl _) .nil).tagged hother.place)

/-- A definition agrees in its parameters, its type and its body. -/
theorem definition_like
    (h : ∀ span place params inner body id rest flags type,
      node = .binary span ">>" (.function place params (.block inner body) id rest flags) type →
      (likeness L).statements body) : (likeness L).definition node := by
  intro other hother
  by_cases hdef : node.isDefinition
  · cases hother with
    | @binary _ _ operator _ _ _ _ hplace hleft hright =>
        cases hleft with
        | function hplace' hparams hbody hid hrest =>
            obtain rfl : operator = ">>" := by
              by_contra hop
              simp [isDefinition, hop] at hdef
            cases hbody with
            | block _ hbody =>
                rw [definition, definition, isPlainFunction_eq hid hrest]
                refine .ite (fun _ => ?_) fun _ => .error rfl hplace'
                refine (typedParams_agree hparams).bind fun _ _ hparams => ?_
                refine (constant_agree hright).bind fun _ _ htype => ?_
                refine (h _ _ _ _ _ _ _ _ _ rfl _ hbody).bind fun _ _ hbody => ?_
                exact .ok ((Fields.cons "params" hparams.arr
                  (.cons "ret" htype (.cons "do" hbody.arr .nil))).tagged hplace)
            | _ =>
                simp only [definition]
                exact .error rfl hplace'
        | _ => simp [isDefinition] at hdef
    | _ => cases hdef
  · rw [Bool.not_eq_true] at hdef
    rw [definition_of_not_isDefinition hdef,
      definition_of_not_isDefinition (hother.isDefinition_eq.trans hdef)]
    exact .error rfl hother.place

/-- The entries of an object agree one by one. -/
theorem entries_cons_like
    (hfirst : ∀ span key value kind computed, node = .property span key value kind computed →
      (likeness L).term value) (hrest : (likeness L).entries nodes) :
    (likeness L).entries (node :: nodes) := by
  intro others hothers
  cases hothers with
  | cons hfirst' hrest' =>
      have hplace := hfirst'.place
      cases hfirst' with
      | property _ hkey hvalue =>
          rw [entryTerms, entryTerms]
          exact property_agree hkey hplace _ _ (fun _ => hfirst _ _ _ _ _ rfl _ hvalue)
            (hrest _ hrest')
      | _ =>
          simp only [entryTerms]
          exact .error rfl hplace

/-- A path agrees in its last step, and then in the path to its base. -/
theorem accesses_like {base access : Node} (haccess : (likeness L).term access)
    (hbase : (likeness L).chain base) : (likeness L).accesses base access := by
  intro base' access' span span' computed hbase' haccess' hplace
  have hstep : L.Agree L.Same (accessStep span access computed)
      (accessStep span' access' computed) := by
    unfold accessStep
    refine .ite (fun _ => haccess _ haccess') fun _ => ?_
    cases haccess' with
    | identifier hplace => exact .ok ((Fields.cons "string" (.refl _) .nil).tagged hplace)
    | _ => exact .error rfl hplace
  rw [accesses_eq, accesses_eq]
  refine hstep.bind fun _ _ hstep => (hbase _ hbase').bind ?_
  rintro ⟨root, path⟩ ⟨root', path'⟩ ⟨hroot, hpath⟩
  exact .ok ⟨hroot, hpath.append (.cons hstep .nil)⟩

/-- The base of an access is an access itself or the root of the path. -/
theorem chain_like (hterm : (likeness L).term node)
    (hmember : ∀ span base access computed, node = .member span base access computed →
      (likeness L).accesses base access) : (likeness L).chain node := by
  intro other hother
  cases h : node.isMember with
  | true =>
      cases hother with
      | member hplace hbase haccess =>
          rw [chain, chain]
          exact hmember _ _ _ _ rfl _ _ _ _ _ hbase haccess hplace
      | _ => cases h
  | false =>
      rw [chain_of_not_isMember h, chain_of_not_isMember (hother.isMember_eq.trans h)]
      exact (hterm _ hother).bind fun _ _ hroot => .ok ⟨hroot, .nil⟩

/-- The path into a slot is an array without holes. -/
theorem statePath_agree {others : List Node} (store : Store)
    (h : ∀ span elements, .array span elements ∈ nodes → (likeness L).elements elements)
    (hothers : List.Forall₂ (Like L) nodes others) :
    L.Agree L.Fields (statePath store nodes) (statePath store others) := by
  cases hothers with
  | nil =>
      rw [statePath]
      exact .ok .nil
  | cons hfirst _ =>
      have hplace := hfirst.place
      cases hfirst with
      | array _ helements =>
          rw [statePath, statePath, any_isNone_eq helements]
          refine .ite (fun _ => .error rfl hplace) fun _ => ?_
          refine (h _ _ List.mem_cons_self _ helements).bind fun _ _ hpath => ?_
          exact .ok (.cons "path" hpath.arr .nil)
      | _ =>
          simp only [statePath]
          exact .error rfl hplace

/-- What a slot is changed to, and what it starts with, are operands. -/
theorem stateChanges_agree {others : List Node}
    (h : ∀ node ∈ nodes, (likeness L).operand node)
    (hothers : List.Forall₂ (Like L) nodes others) :
    L.Agree L.Fields (stateChanges nodes) (stateChanges others) := by
  rcases hothers with _ | ⟨_, _ | ⟨hvalue, _ | ⟨hinitial, _ | ⟨_, _⟩⟩⟩⟩
  case cons.cons.cons.nil =>
    rw [stateChanges, stateChanges]
    refine (h _ (by simp) _ hvalue).bind fun _ _ hvalue => ?_
    refine (h _ (by simp) _ hinitial).bind fun _ _ hinitial => ?_
    exact .ok (.cons "to" hvalue (.cons "init" hinitial .nil))
  case nil | cons.nil =>
    simp only [stateChanges]
    exact .ok .nil
  all_goals
    simp only [stateChanges]
    exact (h _ (by simp) _ hvalue).bind fun _ _ hvalue => .ok (.cons "to" hvalue .nil)

/-- A state access agrees in its slot, its path and its changes. -/
theorem state_like
    (hpath : ∀ span elements, .array span elements ∈ nodes → (likeness L).elements elements)
    (hvalue : ∀ node ∈ nodes, (likeness L).operand node) : (likeness L).state nodes := by
  intro others span span' store most hothers hplace
  have hlength := hothers.length_eq
  cases hothers with
  | nil =>
      rw [stateAccess, stateAccess]
      exact .ite (fun _ => .error rfl hplace) fun _ => .error rfl hplace
  | @cons slot slot' _ _ hslot hrest =>
      rw [stateAccess, stateAccess, ← hlength]
      refine .ite (fun _ => .error rfl hplace) fun _ => ?_
      simp only [hslot.name?_eq]
      cases slot.name? with
      | none => exact .error rfl hslot.place
      | some name =>
          refine (statePath_agree store (fun span elements h =>
            hpath span elements (List.mem_cons_of_mem _ h)) hrest).bind fun _ _ hpath => ?_
          refine (stateChanges_agree (fun node h =>
            hvalue node (List.mem_cons_of_mem _ h)) hrest).bind fun _ _ hchanges => ?_
          exact .ok ((Fields.cons store.slot (.refl _) (hpath.append hchanges)).tagged hplace)

/-- The type of a new value is refused in like places. -/
theorem checkType_agree {type type' : Node} (h : Like L type type') (name : String) :
    L.Agree (fun _ _ => True)
      (if type.isTypeLiteral then .ok () else .error ⟨.constructorType name, type.span⟩)
      (if type'.isTypeLiteral then .ok () else .error ⟨.constructorType name, type'.span⟩) := by
  rw [h.isTypeLiteral_eq]
  exact .ite (fun _ => .ok trivial) fun _ => .error rfl h.place

/-- The contents of a new value are an array or an object. -/
theorem contents_like
    (helements : ∀ place elements, node = .array place elements → (likeness L).elements elements)
    (hentries : ∀ place properties, node = .object place properties →
      (likeness L).entries properties) : (likeness L).contents node := by
  intro other type type' span span' name hother htype hplace
  have hplace' := hother.place
  cases hother with
  | array _ hother =>
      simp only [newValue, any_isNone_eq hother]
      refine .ite (fun _ => ?_) fun _ => .error rfl hplace'
      refine (checkType_agree htype name).bind fun _ _ _ => ?_
      refine .ite (fun _ => .error rfl hplace') fun _ => ?_
      refine (helements _ _ rfl _ hother).bind fun _ _ hitems => ?_
      refine (constant_agree htype).bind fun _ _ htype => ?_
      exact .ok ((Fields.cons "new" hitems.arr (.cons "type" htype .nil)).tagged hplace)
  | object _ hother =>
      simp only [newValue]
      refine .ite (fun _ => .error rfl hplace') fun _ => ?_
      refine (checkType_agree htype name).bind fun _ _ _ => ?_
      refine (hentries _ _ rfl _ hother).bind fun _ _ hentries => ?_
      refine (constant_agree htype).bind fun _ _ htype => ?_
      exact .ok ((Fields.cons "new" hentries.ofList.obj (.cons "type" htype .nil)).tagged hplace)
  | _ =>
      simp only [newValue]
      exact .error rfl hplace'

/-- Declared variables agree one by one. -/
theorem bindings_cons_like {first : Declarator Node} {rest : List (Declarator Node)}
    (hfirst : ∀ init, first.init = some init → (likeness L).term init)
    (hrest : (likeness L).bindings rest) : (likeness L).bindings (first :: rest) := by
  intro others hothers
  cases hothers with
  | cons hfirst' hrest' =>
      obtain ⟨hplace, htarget, hinit⟩ := hfirst'
      cases htarget with
      | @identifier _ _ name =>
          cases hinit with
          | none =>
              rw [bindings, bindings]
              exact .error rfl hplace
          | some hinit =>
              rw [bindings, bindings]
              refine (hfirst _ rfl _ hinit).bind fun _ _ hvalue => ?_
              exact (hrest _ hrest').bind fun _ _ hrest => .ok (.cons name hvalue hrest)
      | _ =>
          simp only [bindings]
          exact .error rfl hplace

/-- The assignments of a sequence agree one by one. -/
theorem assignments_cons_like
    (hfirst : ∀ span operator left right, node = .assignment span operator left right →
      (likeness L).term right) (hrest : (likeness L).assignments nodes) :
    (likeness L).assignments (node :: nodes) := by
  intro others hothers
  cases hothers with
  | cons hfirst' hrest' =>
      have hplace := hfirst'.place
      cases hfirst' with
      | assignment _ hleft hright =>
          cases hleft with
          | @identifier _ _ name =>
              rw [assignments, assignments]
              refine .ite (fun _ => .error rfl hplace) fun _ => ?_
              refine (hfirst _ _ _ _ rfl _ hright).bind fun _ _ hvalue => ?_
              exact (hrest _ hrest').bind fun _ _ hrest => .ok (.cons name hvalue hrest)
          | _ =>
              simp only [assignments]
              exact .ite (fun _ => .error rfl hplace) fun _ => .error rfl hplace
      | _ =>
          simp only [assignments]
          exact .error rfl hplace

/-! ### Statements -/

/-- What is no proper statement agrees as an expression, or is refused alike. -/
theorem notProper_like (hproper : node.isProperStatement = false) (h : (likeness L).term node) :
    (likeness L).statement node := by
  intro other hother
  cases hstatement : node.isStatement with
  | true =>
      have hterm := h _ hother
      cases hother <;>
        simp only [isProperStatement, isStatement, reduceCtorEq] at hproper hstatement
      all_goals simpa only [statement] using hterm
  | false =>
      rw [statement_of_not_isStatement hstatement,
        statement_of_not_isStatement (hother.isStatement_eq.trans hstatement), hother.tag_eq]
      exact .error rfl hother.place

/-- A conditional statement agrees in its test, its branch and the rest of its chain. -/
theorem conditionalStatement_like (htest : (likeness L).term test)
    (hbody : (likeness L).body consequent) (hothers : (likeness L).alternatives alternate) :
    (likeness L).statement (.conditionalStatement span test consequent alternate) := by
  intro other hother
  cases hother with
  | conditionalStatement hplace htest' hbody' halternate =>
      rw [statement, statement]
      refine (htest _ htest').bind fun _ _ htest => (hbody _ hbody').bind fun _ _ hbody => ?_
      refine (hothers _ halternate).bind ?_
      rintro ⟨others, otherwise⟩ ⟨others', otherwise'⟩ ⟨hothers, hotherwise⟩
      exact .ok (conditionalTerm_same (branch_same htest hbody hplace) hothers hotherwise hplace)

/-- A loop over a value agrees in its variable, the value and its body. -/
theorem forInLoop_like (hright : (likeness L).term right) (hbody : (likeness L).body body) :
    (likeness L).statement (.forInLoop span left right body) := by
  intro other hother
  cases hother with
  | forInLoop hplace hleft hright' hbody' =>
      simp only [statement, hleft.loopVariable?_eq]
      cases left.loopVariable? with
      | none => exact .error rfl hleft.place
      | some name =>
          refine (hright _ hright').bind fun _ _ hright => ?_
          refine (hbody _ hbody').bind fun _ _ hbody => ?_
          exact .ok ((Fields.cons "foreach" (.refl _) (.cons "in" hright
            (.cons "do" hbody.arr .nil))).tagged hplace)

theorem statements_nil_like : (likeness L).statements [] := by
  intro others hothers
  cases hothers
  rw [statements]
  exact .ok .nil

/-- Statements agree one by one, and an empty one that the other list lacks leaves nothing behind.
-/
theorem statements_cons_like (hfirst : (likeness L).statement node)
    (hrest : (likeness L).statements nodes) : (likeness L).statements (node :: nodes) := by
  intro others hothers
  cases hothers with
  | cons hnode hs =>
      rw [statements, statements]
      refine (hfirst _ hnode).bind fun first _ hfirst => (hrest _ hs).bind fun _ _ hrest => ?_
      rw [← hfirst.isNull_eq]
      cases first.isNull with
      | true => exact .ok hrest
      | false => exact .ok (.cons hfirst hrest)
  | skip hempty hs =>
      rw [statements_cons_of_leavesNothing (by rw [leavesNothing, hempty, Bool.true_or])]
      exact hrest _ hs

/-- A body is compiled as the list of its statements. -/
theorem statementBody_eq (body : Node) : statementBody body = statements (bodyStatements body) := by
  cases h : body.isBlock with
  | true =>
      cases body with
      | block span body => rw [statementBody, bodyStatements]
      | _ => cases h
  | false =>
      rw [statementBody_of_not_isBlock h, bodyStatements_of_not_isBlock h, statements, statements]
      cases statement body <;> rfl

/-- A body agrees as the list of its statements, with or without braces. -/
theorem body_like (hstatement : (likeness L).statement node)
    (hblock : ∀ span body, node = .block span body → (likeness L).statements body) :
    (likeness L).body node := by
  intro other hother
  rw [statementBody_eq, statementBody_eq]
  cases hnode : node.isBlock with
  | true =>
      cases node with
      | block span body => exact hblock span body rfl _ hother
      | _ => cases hnode
  | false =>
      rw [bodyStatements_of_not_isBlock hnode] at hother ⊢
      exact statements_cons_like hstatement statements_nil_like _ hother

/-- An alternative goes on with the chain, or ends it with its statements. -/
theorem alternatives_some_like (hbody : (likeness L).body node)
    (hchain : ∀ span test consequent alternate,
      node = .conditionalStatement span test consequent alternate →
      (likeness L).term test ∧ (likeness L).body consequent ∧ (likeness L).alternatives alternate) :
    (likeness L).alternatives (some node) := by
  intro other hother
  cases hother with
  | chain hnode hother =>
      cases hother with
      | conditionalStatement hplace htest hconsequent halternate =>
          obtain ⟨hterm, hbody, hothers⟩ := hchain _ _ _ _ rfl
          rw [alternatives, alternatives]
          refine (hterm _ htest).bind fun _ _ htest => ?_
          refine (hbody _ hconsequent).bind fun _ _ hbody => (hothers _ halternate).bind ?_
          rintro ⟨others, otherwise⟩ ⟨others', otherwise'⟩ ⟨hothers, hotherwise⟩
          exact .ok ⟨.cons (branch_same htest hbody hplace) hothers, hotherwise⟩
      | _ => cases hnode
  | body hnode hother h =>
      rw [alternatives_of_not_isConditional hnode, alternatives_of_not_isConditional hother]
      exact (hbody _ h).bind fun _ _ hbody => .ok ⟨.nil, .some hbody⟩

/-- A step agrees in its variable and in the change. -/
theorem stepChange_like
    (hright : ∀ span operator left right, node = .assignment span operator left right →
      (likeness L).term right) : (likeness L).stepChange node := by
  intro other hother
  have hplace := hother.place
  cases hother with
  | @assignment _ _ operator _ _ _ _ _ hleft hright' =>
      cases hleft with
      | identifier =>
          rw [stepChange, stepChange]
          refine (hright _ _ _ _ rfl _ hright').bind fun _ _ hright => ?_
          exact (assigned_agree (.refl _) hright hplace operator).bind fun _ _ h => .ok ⟨rfl, h⟩
      | _ =>
          simp only [stepChange]
          exact .error rfl hplace
  | @update _ _ operator _ _ _ _ hargument =>
      cases hargument with
      | @identifier _ _ name =>
          rw [stepChange, stepChange]
          exact (updated_agree hplace operator name _).bind fun _ _ h => .ok ⟨rfl, h⟩
      | _ =>
          simp only [stepChange]
          exact .error rfl hplace
  | _ =>
      simp only [stepChange]
      exact .error rfl hplace

theorem steps_nil_like : (likeness L).steps [] := by
  intro others hothers
  cases hothers
  rw [steps]
  exact .ok .nil

/-- The steps of a loop agree one by one. -/
theorem steps_cons_like (hfirst : (likeness L).stepChange node) (hrest : (likeness L).steps nodes) :
    (likeness L).steps (node :: nodes) := by
  intro others hothers
  cases hothers with
  | cons hnode hs =>
      rw [steps, steps]
      refine (hfirst _ hnode).bind ?_
      rintro ⟨name, value⟩ ⟨_, value'⟩ ⟨rfl, hvalue⟩
      exact (hrest _ hs).bind fun _ _ hrest => .ok (.cons name hvalue hrest)

/-- The steps of a loop agree if each of them does, alone or as parts of a sequence. -/
theorem steps_stepParts_like {step : Option Node}
    (hpart : ∀ node, step = some node → (likeness L).stepChange node)
    (hparts : ∀ place parts, step = some (.sequence place parts) → (likeness L).steps parts) :
    (likeness L).steps (stepParts step) := by
  rcases step with _ | node
  · exact steps_nil_like
  · cases node with
    | sequence place parts => exact hparts place parts rfl
    | _ => exact steps_cons_like (hpart _ rfl) steps_nil_like

/-- A `for` loop agrees in its variables, its steps, its test and its body, in this order. -/
theorem forLoop_like {span : Option Span} {init test step : Option Node} {body : Node}
    (hinit : ∀ place declarators kind, init = some (.declaration place declarators kind) →
      (likeness L).bindings declarators)
    (htest : ∀ node, test = some node → (likeness L).term node)
    (hpart : ∀ node, step = some node → (likeness L).stepChange node)
    (hparts : ∀ place parts, step = some (.sequence place parts) → (likeness L).steps parts)
    (hbody : (likeness L).body body) :
    (likeness L).statement (.forLoop span init test step body) := by
  intro other hother
  cases hother with
  | @forLoop _ span' _ _ _ test' _ step' _ _ hplace hinit' htest' hstep' hbody' =>
      cases hinit' with
      | none =>
          simp only [statement]
          exact .error rfl hplace
      | some hinit' =>
          have hplace' := hinit'.place
          cases hinit' with
          | declaration _ hdeclarators =>
              have hcondition : L.Agree L.Same (loopTest test) (loopTest test') := by
                cases htest' with
                | none => exact .ok (.refl _)
                | some htest' => exact htest _ rfl _ htest'
              have hstepPlace : L.Place (stepPlace span step) (stepPlace span' step') := by
                cases hstep' with
                | none => exact hplace
                | some hstep' => exact hstep'.place
              have hlike := like_stepParts hstep'
              have hempty : (stepParts step').isEmpty = (stepParts step).isEmpty := by
                rw [Bool.eq_iff_iff, List.isEmpty_iff_length_eq_zero,
                  List.isEmpty_iff_length_eq_zero, hlike.length_eq]
              rw [statement_forLoop, statement_forLoop, hempty, all_isStep_eq hlike]
              refine (hinit _ _ _ rfl _ hdeclarators).bind fun _ _ hbound => ?_
              refine .ite (fun _ => .error rfl hstepPlace) fun _ => ?_
              refine (steps_stepParts_like hpart hparts _ hlike).bind fun _ _ hsteps => ?_
              refine hcondition.bind fun _ _ htest => (hbody _ hbody').bind fun _ _ hbody => ?_
              exact .ok ((Fields.cons "for" hbound.ofList.obj (.cons "while" htest
                (.cons "step" hsteps.ofList.obj (.cons "do" hbody.arr .nil)))).tagged hplace)
          | _ =>
              simp only [statement]
              exact .error rfl hplace'

end steps

/-- Every construct respects that its parts are alike. -/
theorem likeness_closed (L : Likeness) : (likeness L).Closed where
  literal _ _ value _ _ hother := by
    cases hother with
    | literal hplace =>
        rw [term_literal, term_literal]
        refine .ite (fun _ => .error rfl hplace) fun _ => ?_
        exact .ok (Likeness.literalTerm_same hplace value)
  identifier _ _ _ hother := by
    cases hother
    rw [term, term]
    exact .ok (.refl _)
  member h _ hother := by
    cases hother with
    | member hplace hbase haccess =>
        rw [term, term]
        refine (h _ _ _ _ _ hbase haccess hplace).bind ?_
        rintro ⟨root, path⟩ ⟨root', path'⟩ ⟨hroot, hpath⟩
        exact .ok (attributeEntries_same hroot hpath hplace).obj
  unary {_ operator _ _} h _ hother := by
    cases hother with
    | unary hplace hargument =>
        rw [term, term]
        cases unaryFunction? operator with
        | none => exact .error rfl hplace
        | some name =>
            refine (h _ hargument).bind fun _ _ h => ?_
            exact .ok (application_same (.cons h .nil) hplace name)
  binary {_ operator _ _} hleft hright _ hother := by
    cases hother with
    | binary hplace hleft' hright' =>
        rw [term, term]
        cases binaryFunction? operator with
        | none => exact .error rfl hplace
        | some name =>
            refine (hleft _ hleft').bind fun _ _ hleft => ?_
            refine (hright _ hright').bind fun _ _ hright => ?_
            exact .ok (application_same (.cons hleft (.cons hright .nil)) hplace name)
  conditional htest hleft hright _ hother := by
    cases hother with
    | conditional hplace htest' hleft' hright' =>
        rw [term, term]
        refine (htest _ htest').bind fun _ _ htest => (hleft _ hleft').bind fun _ _ hleft => ?_
        refine (hright _ hright').bind fun _ _ hright => ?_
        exact .ok ((Fields.cons "if" htest
          (.cons "then" hleft (.cons "else" hright .nil))).tagged hplace)
  call := call_like
  construct := construct_like
  declaration h _ hother := by
    cases hother with
    | declaration hplace hdeclarators =>
        rw [term, term]
        refine (h _ hdeclarators).bind fun _ _ h => ?_
        exact .ok ((Fields.cons "let" h.ofList.obj .nil).tagged hplace)
  update _ operator _ _ _ hother := by
    cases hother with
    | update hplace hargument =>
        cases hargument with
        | @identifier _ _ name =>
            rw [term, term]
            refine (updated_agree hplace operator name _).bind fun _ _ h => ?_
            exact .ok (set_same h hplace name)
        | _ =>
            simp only [term]
            exact .error rfl hplace
  assignment := assignment_like
  sequence h _ hother := by
    cases hother with
    | sequence hplace hitems =>
        rw [term, term]
        refine (h _ hitems).bind fun _ _ h => ?_
        exact .ok ((Fields.cons "set" h.ofList.obj .nil).tagged hplace)
  block h _ hother := by
    cases hother with
    | block hplace hbody =>
        rw [term, term]
        exact (h _ hbody).bind fun _ _ h => .ok ((Fields.cons "do" h.arr .nil).tagged hplace)
  notExpression h _ hother := by
    rw [term_of_not_isExpression h, term_of_not_isExpression (hother.isExpression_eq.trans h),
      hother.tag_eq]
    exact .error rfl hother.place
  operand := operand_like
  definition := definition_like
  elements_nil _ hothers := by
    cases hothers
    rw [elementTerms]
    exact .ok .nil
  elements_none h _ hothers := by
    cases hothers with
    | cons hfirst hrest =>
        cases hfirst
        rw [elementTerms, elementTerms]
        exact h _ hrest
  elements_some hfirst hrest _ hothers := by
    cases hothers with
    | cons hfirst' hrest' =>
        cases hfirst' with
        | some hfirst' =>
            rw [elementTerms, elementTerms]
            refine (hfirst _ hfirst').bind fun _ _ hfirst => ?_
            exact (hrest _ hrest').bind fun _ _ hrest => .ok (.cons hfirst hrest)
  entries_nil _ hothers := by
    cases hothers
    rw [entryTerms]
    exact .ok .nil
  entries_cons := entries_cons_like
  operands_nil _ hothers := by
    cases hothers
    rw [operands]
    exact .ok .nil
  operands_cons hfirst hrest _ hothers := by
    cases hothers with
    | cons hfirst' hrest' =>
        rw [operands, operands]
        refine (hfirst _ hfirst').bind fun _ _ hfirst => ?_
        exact (hrest _ hrest').bind fun _ _ hrest => .ok (.cons hfirst hrest)
  accesses := accesses_like
  chain := chain_like
  state := state_like
  contents := contents_like
  bindings_nil _ hothers := by
    cases hothers
    rw [bindings]
    exact .ok .nil
  bindings_cons := bindings_cons_like
  assignments_nil _ hothers := by
    cases hothers
    rw [assignments]
    exact .ok .nil
  assignments_cons := assignments_cons_like
  expressionStatement h _ hother := by
    cases hother with
    | expressionStatement _ hinner =>
        rw [statement, statement]
        exact h _ hinner
  conditionalStatement := conditionalStatement_like
  whileLoop htest hbody _ hother := by
    cases hother with
    | whileLoop hplace htest' hbody' =>
        rw [statement, statement]
        refine (htest _ htest').bind fun _ _ htest => (hbody _ hbody').bind fun _ _ hbody => ?_
        exact .ok ((Fields.cons "while" htest (.cons "do" hbody.arr .nil)).tagged hplace)
  doWhileLoop htest hbody _ hother := by
    cases hother with
    | doWhileLoop hplace htest' hbody' =>
        rw [statement, statement]
        refine (htest _ htest').bind fun _ _ htest => (hbody _ hbody').bind fun _ _ hbody => ?_
        have hstop := (Fields.cons "not" htest .nil).tagged htest'.place
        exact .ok ((Fields.cons "do" hbody.arr (.cons "until" hstop .nil)).tagged hplace)
  forLoop := forLoop_like
  forInLoop := forInLoop_like
  throwStatement _ argument _ hother := by
    cases hother with
    | throwStatement hplace hargument =>
        simp only [statement, hargument.text?_eq]
        cases argument.text? with
        | none => exact .error rfl hplace
        | some text => exact .ok ((Fields.cons "error" (.refl _) .nil).tagged hplace)
  empty _ _ hother := by
    cases hother
    rw [statement, statement]
    exact .ok (.refl _)
  notProper := notProper_like
  statements_nil := statements_nil_like
  statements_cons := statements_cons_like
  body := body_like
  alternatives_none _ hother := by
    cases hother
    rw [alternatives]
    exact .ok ⟨.nil, .none⟩
  alternatives_some := alternatives_some_like
  stepChange := stepChange_like
  steps_nil := steps_nil_like
  steps_cons := steps_cons_like

/-- Definitions that are alike compile alike. -/
theorem definition_agree {node other : Node} (h : Like L node other) :
    L.Agree L.Same (definition node) (definition other) :=
  (likeness_closed L).of_definition node other h

/-- So do lists of statements, of which one may lack empty ones. -/
theorem statements_agree {nodes others : List Node} (h : Kept (Like L) nodes others) :
    L.Agree L.Items (statements nodes) (statements others) :=
  (likeness_closed L).of_statements nodes others h

end Node

/-! ### Up to places and markers -/

theorem application_same {arguments others : List Json} (h : Json.SameItems arguments others)
    (span span' : Option Span) (function : String) :
    Json.Same (application span function arguments) (application span' function others) :=
  Likeness.application_same (L := .stripped) h trivial function

theorem assigned_agree {target target' value value' : Json} (htarget : Json.Same target target')
    (hvalue : Json.Same value value') (span span' : Option Span) (operator : String) :
    Agree Json.Same (assigned span operator target value)
      (assigned span' operator target' value') :=
  (Likeness.assigned_agree (L := .stripped) htarget hvalue trivial operator).agree

end PfaScript
