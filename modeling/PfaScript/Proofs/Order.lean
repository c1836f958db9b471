import Mathlib
import PfaScript.Proofs.Provenance
import PfaScript.Proofs.Running
import PfaScript.Proofs.Schema

/-!
# The order of statements

A top-level statement adds an entry of its own to the document, whatever was added before; all that
is asked of the statements before it is that none of them has assigned the same field. So a script
compiles exactly if each statement adds an entry, no two of them to one field, and the required
fields are there (`Program.compile_ok_iff`). None of this depends on the order of the statements,
which only decides the order of the fields (`Program.order_irrelevant`).
-/

namespace PfaScript

/-- Mappings with the same entries, and distinct keys, are looked up alike. -/
theorem Entries.get?_perm {κ α : Type} [BEq κ] [LawfulBEq κ] {entries others : Entries κ α}
    (hperm : entries.Perm others) (hnodup : entries.keys.Nodup) (key : κ) :
    entries.get? key = others.get? key := by
  have hnodup' : others.keys.Nodup := (hperm.map Prod.fst).nodup_iff.mp hnodup
  cases hother : others.get? key with
  | some value => exact get?_of_mem hnodup (hperm.mem_iff.mpr (mem_of_get? hother))
  | none =>
      rw [get?_eq_none_iff] at hother ⊢
      exact fun hmem => hother ((hperm.map Prod.fst).mem_iff.mp hmem)

/-- The keys that the statements of a script assign, in order. -/
def Program.assigned (program : Program) : List String :=
  program.body.filterMap fun statement => (Document.assignment? statement).map Prod.fst

namespace Document

variable {document result added : Entries String Json} {statement : Node} {statements : List Node}

/-- What a statement adds does not depend on the document, as long as its key is new. -/
theorem entry_ok_iff {key : String} {v : Json} :
    entry document statement = .ok (key, v) ↔
      entry [] statement = .ok (key, v) ∧ key ∉ document.keys := by
  have hcontains : document.contains key = false ↔ key ∉ document.keys := by
    rw [← Entries.contains_iff, Bool.not_eq_true]
  constructor
  · intro h
    obtain ⟨field, node, hassigned, hfield, hnew, hvalue⟩ := entry_ok h
    refine ⟨?_, hcontains.mp hnew⟩
    simp [entry, hassigned, hfield, hvalue, Entries.contains]
  · rintro ⟨h, hnew⟩
    obtain ⟨field, node, hassigned, hfield, -, hvalue⟩ := entry_ok h
    simp [entry, hassigned, hfield, hvalue, hcontains.mpr hnew]

/-- Each statement adds its entry, in order. -/
def Adds (statements : List Node) (added : Entries String Json) : Prop :=
  List.Forall₂ (fun statement pair => entry [] statement = .ok pair) statements added

/-- Statements gather into a document exactly if each of them adds an entry and all keys are
distinct. -/
theorem gathered_ok_iff (hnodup : document.keys.Nodup) :
    statements.foldlM extend document = .ok result ↔
      ∃ added, Adds statements added ∧ result = document ++ added ∧ result.keys.Nodup := by
  induction statements generalizing document with
  | nil =>
      constructor
      · rintro ⟨⟩
        exact ⟨[], .nil, (List.append_nil _).symm, hnodup⟩
      · rintro ⟨added, hadds, rfl, -⟩
        cases hadds
        rw [List.append_nil]
        rfl
  | cons statement rest ih =>
      rw [List.foldlM_cons, bind_eq_ok_iff]
      constructor
      · rintro ⟨next, hnext, h⟩
        obtain ⟨key, v, hentry, rfl⟩ := extend_ok_iff.mp hnext
        obtain ⟨halone, hnew⟩ := entry_ok_iff.mp hentry
        have hgrown : (Entries.keys (document ++ [(key, v)])).Nodup := by
          rw [← Entries.insert_eq_append v hnew]
          exact Entries.nodup_keys_insert hnodup key v
        obtain ⟨added, hadds, rfl, hresult⟩ := (ih hgrown).mp h
        refine ⟨(key, v) :: added, .cons halone hadds, ?_, hresult⟩
        rw [List.append_assoc, List.singleton_append]
      · rintro ⟨added, hadds, heq, hresult⟩
        cases hadds with
        | @cons _ pair _ added halone hadds =>
            obtain ⟨key, v⟩ := pair
            rw [← List.singleton_append, ← List.append_assoc] at heq
            have hgrown : (Entries.keys (document ++ [(key, v)])).Nodup := by
              rw [heq, Entries.keys_append] at hresult
              exact (List.nodup_append.mp hresult).1
            have hnew : key ∉ document.keys := by
              rw [Entries.keys_append, List.nodup_append] at hgrown
              intro hmem
              exact hgrown.2.2 key hmem key List.mem_cons_self rfl
            exact ⟨_, extend_ok_iff.mpr ⟨key, v, entry_ok_iff.mpr ⟨halone, hnew⟩, rfl⟩,
              (ih hgrown).mpr ⟨added, hadds, heq, hresult⟩⟩

/-- The keys of the added entries are the assigned ones. -/
theorem Adds.keys_eq (h : Adds statements added) :
    added.keys = statements.filterMap fun statement => (assignment? statement).map Prod.fst := by
  induction h with
  | nil => rfl
  | @cons statement pair rest added hentry hadds ih =>
      obtain ⟨key, v⟩ := pair
      obtain ⟨field, node, hassigned, -⟩ := entry_ok hentry
      simp [hassigned, ih]

theorem Adds.ne_markerKey (h : Adds statements added) : markerKey ∉ added.keys := by
  induction h with
  | nil => simp
  | @cons statement pair rest added hentry hadds ih =>
      obtain ⟨key, v⟩ := pair
      obtain ⟨field, node, -, hfield, -⟩ := entry_ok hentry
      rw [Entries.keys_cons, List.mem_cons, not_or]
      exact ⟨(ne_markerKey_of_ofKey? hfield).symm, ih⟩

/-- The same statements in another order add the same entries in that order. -/
theorem Adds.perm {others : List Node} (h : Adds statements added)
    (hperm : statements.Perm others) : ∃ changed, Adds others changed ∧ added.Perm changed := by
  have hcomp : Relation.Comp List.Perm Adds others added := ⟨statements, hperm.symm, h⟩
  unfold Adds at hcomp
  rw [← List.forall₂_comp_perm_eq_perm_comp_forall₂] at hcomp
  obtain ⟨changed, hadds, hchanged⟩ := hcomp
  exact ⟨changed, hadds, hchanged.symm⟩

/-- Which required field is missing does not depend on the order of the fields. -/
theorem incomplete?_perm (h : document.Perm result) :
    incomplete? document = incomplete? result := by
  have hcontains : ∀ field : Field, document.contains field.key = result.contains field.key := by
    intro field
    rw [Bool.eq_iff_iff, Entries.contains_iff, Entries.contains_iff]
    exact (h.map Prod.fst).mem_iff
  simp only [incomplete?, hcontains]

end Document

namespace Program

/-- A script compiles exactly if each statement adds an entry, no two of them to one field, and the
required fields are there. -/
theorem compile_ok_iff {program : Program} {document : Entries String Json} :
    program.compile = .ok document ↔
      Document.Adds program.body document ∧ document.keys.Nodup ∧
        Document.incomplete? document = none := by
  rw [compile_eq_ok_iff, Document.gathered_ok_iff (by simp), ← and_assoc]
  refine and_congr_left fun _ => ?_
  constructor
  · rintro ⟨added, hadds, rfl, hnodup⟩
    exact ⟨hadds, hnodup⟩
  · rintro ⟨hadds, hnodup⟩
    exact ⟨document, hadds, rfl, hnodup⟩

variable {program other : Program} {document changed : Entries String Json}

/-- The fields of a document are in the order in which they are assigned. -/
theorem keys_of_compile (h : program.compile = .ok document) :
    document.keys = program.assigned :=
  (compile_ok_iff.mp h).1.keys_eq

/-- The same statements in another order give the same entries in that order. -/
theorem exists_compile_of_perm (hperm : program.body.Perm other.body)
    (h : program.compile = .ok document) :
    ∃ changed, other.compile = .ok changed ∧ document.Perm changed := by
  obtain ⟨hadds, hnodup, hcomplete⟩ := compile_ok_iff.mp h
  obtain ⟨changed, hchanged, hdocument⟩ := hadds.perm hperm
  refine ⟨changed, compile_ok_iff.mpr ⟨hchanged, ?_, ?_⟩, hdocument⟩
  · exact (hdocument.map Prod.fst).nodup_iff.mp hnodup
  · rw [← Document.incomplete?_perm hdocument, hcomplete]

/-- Markers stand below the fields, so that a document has the same fields without them. -/
theorem keys_of_document {withLocations : Bool}
    (h : program.document withLocations = .ok document) : document.keys = program.assigned := by
  obtain ⟨whole, hwhole, rfl⟩ := document_ok_iff.mp h
  cases withLocations with
  | true => exact keys_of_compile hwhole
  | false =>
      have hmarker := (compile_ok_iff.mp hwhole).1.ne_markerKey
      rw [← keys_of_compile hwhole, if_neg Bool.false_ne_true, Json.keys_stripFields,
        List.filter_eq_self]
      intro key hkey
      have hne : key ≠ markerKey := fun heq => hmarker (heq ▸ hkey)
      simpa using hne

theorem nodup_keys_of_document {withLocations : Bool}
    (h : program.document withLocations = .ok document) : document.keys.Nodup := by
  obtain ⟨whole, hwhole, -⟩ := document_ok_iff.mp h
  rw [keys_of_document h, ← keys_of_compile hwhole]
  exact (compile_ok_iff.mp hwhole).2.1

theorem exists_document_of_perm (hperm : program.body.Perm other.body) {withLocations : Bool}
    (h : program.document withLocations = .ok document) :
    ∃ changed, other.document withLocations = .ok changed ∧ document.Perm changed := by
  obtain ⟨whole, hwhole, rfl⟩ := document_ok_iff.mp h
  obtain ⟨changed, hchanged, hwhole⟩ := exists_compile_of_perm hperm hwhole
  refine ⟨_, document_ok_iff.mpr ⟨changed, hchanged, rfl⟩, ?_⟩
  cases withLocations with
  | true => exact hwhole
  | false => exact Json.stripFields_perm hwhole

/-- **The order of statements is irrelevant** to whether a script compiles and to the value of every
field. It decides the order of the fields: in the document, and in the report on a file that holds
the script, they stand as the script assigns them. -/
theorem order_irrelevant {program other : Program} (hperm : program.body.Perm other.body)
    (withLocations : Bool) :
    ((∃ document, program.document withLocations = .ok document) ↔
      ∃ changed, other.document withLocations = .ok changed) ∧
    (∀ document changed, program.document withLocations = .ok document →
      other.document withLocations = .ok changed →
      (∀ key, document.get? key = changed.get? key) ∧
        document.keys = program.assigned ∧ changed.keys = other.assigned) ∧
    ∀ behaviour config path session, config.withLocations = withLocations →
      session.disk.HasScript path program →
      ((∃ report disk, (Run.compileFile behaviour config path).Gives session report disk) ↔
        ∃ document, program.document withLocations = .ok document) ∧
      ∀ report disk, (Run.compileFile behaviour config path).Gives session report disk →
        report.fields = program.assigned := by
  refine ⟨⟨?_, ?_⟩, ?_, ?_⟩
  · rintro ⟨document, h⟩
    obtain ⟨changed, hchanged, -⟩ := exists_document_of_perm hperm h
    exact ⟨changed, hchanged⟩
  · rintro ⟨changed, h⟩
    obtain ⟨document, hdocument, -⟩ := exists_document_of_perm hperm.symm h
    exact ⟨document, hdocument⟩
  · intro document changed h hother
    obtain ⟨changed', hchanged, hsame⟩ := exists_document_of_perm hperm h
    cases hchanged.symm.trans hother
    exact ⟨Entries.get?_perm hsame (nodup_keys_of_document h), keys_of_document h,
      keys_of_document hother⟩
  · rintro behaviour config path session rfl hscript
    simp only [Run.compileFile_gives_iff]
    constructor
    · constructor
      · rintro ⟨report, disk, ⟨loaded, document, hloaded, hdocument, -⟩, -⟩
        exact ⟨document, hloaded.unique hscript ▸ hdocument⟩
      · rintro ⟨document, hdocument⟩
        exact ⟨_, _, ⟨program, document, hscript, hdocument, rfl⟩, rfl⟩
    · rintro report disk ⟨⟨loaded, document, hloaded, hdocument, rfl⟩, -⟩
      exact hloaded.unique hscript ▸ keys_of_document hdocument

/-- Reversed, the script that declares state keeps its document, and the fields are reversed. -/
theorem order_irrelevant_stateful : ∃ changed,
    (⟨none, stateful.body.reverse⟩ : Program).document true = .ok changed ∧
      (∀ key, statefulDocument.get? key = changed.get? key) ∧
      changed.keys = statefulDocument.keys.reverse := by
  have h : stateful.document true = .ok statefulDocument := by cbv
  obtain ⟨hiff, hsame, -⟩ :=
    @order_irrelevant stateful ⟨none, stateful.body.reverse⟩ (List.reverse_perm _).symm true
  obtain ⟨changed, hchanged⟩ := hiff.mp ⟨_, h⟩
  obtain ⟨hget, -, hkeys⟩ := hsame _ _ h hchanged
  exact ⟨changed, hchanged, hget, hkeys.trans (by cbv)⟩

end Program

end PfaScript
