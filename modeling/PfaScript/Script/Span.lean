import PfaScript.Setting.Coerce

/-!
# Spans

Where in a source file a piece of a script stands. A span is read from the `loc` entry that parsers
attach to the nodes of a syntax tree; an unusable entry gives no span, except that an infinite line
or column is an error of its own.
-/

namespace PfaScript

/-- A place in a source file. -/
structure Span where
  startLine : Int
  startColumn : Int
  endLine : Int
  endColumn : Int
deriving DecidableEq, Repr

namespace Span

/-- The wording of a span: its lines. -/
def describe (span : Span) : String :=
  s!"JS lines {span.startLine} to {span.endLine}"

/-- Why there is no span: an unusable entry is passed over, an infinite position is not. -/
inductive Absence where
  | unusable
  | infinite
deriving DecidableEq, Repr

/-- A line or column; a missing column counts as zero, a missing line has no fallback. -/
def position (fields : Entries String Json) (key : String) (fallback : Option Int) :
    Except Absence Int :=
  match fields.get? key, fallback with
  | some v, _ =>
    match v.integer with
    | .ok n => .ok n
    | .error .infinite => .error .infinite
    | .error .notAnInteger => .error .unusable
  | none, some n => .ok n
  | none, none => .error .unusable

/-- The span of a `loc` entry. -/
def ofLoc (loc : Option Json) : Except Absence Span :=
  match loc with
  | some (.obj fields) =>
    match Entries.get? fields "start", Entries.get? fields "end" with
    | some (.obj first), some (.obj last) => do
      let startLine ← position first "line" none
      let startColumn ← position first "column" (some 0)
      let endLine ← position last "line" none
      let endColumn ← position last "column" (some 0)
      return ⟨startLine, startColumn, endLine, endColumn⟩
    | _, _ => .error .unusable
  | _ => .error .unusable

end Span

end PfaScript
