import PfaScript.Yaml.Cursor
import PfaScript.Yaml.Problem

/-!
# Block scalars

A block scalar stands on lines of its own below its header. The bar keeps its line ends, the greater
sign folds them. The header may also tell how far the lines are indented, and what becomes of the
line ends after the text: one of them is kept, or none, or all.
-/

namespace PfaScript

namespace Yaml

namespace Block

/-- What becomes of the line ends after a block scalar. -/
inductive Ending where
  | one
  | none
  | all
deriving DecidableEq, Repr

/-- The ending that a sign in the header asks for. -/
def Ending.ofSign? : Char → Option Ending
  | '+' => some .all
  | '-' => some .none
  | _ => Option.none

/-- The indentation that a digit in the header asks for. -/
def width? (c : Char) : Option Nat :=
  if c.isDigit then some (c.toNat - '0'.toNat) else none

/-- The header of a block scalar after its first character: the ending, the indentation if it is
told, and the place of the first line. -/
def header (cursor : Cursor) : Except Problem (Ending × Option Nat × Cursor) := do
  let first := cursor.peek? 0
  let second := cursor.peek? 1
  let (ending, width, cursor) := match first.bind Ending.ofSign?, first.bind width? with
    | some ending, _ => match second.bind width? with
      | some width => (ending, some width, cursor.skip 2)
      | Option.none => (ending, Option.none, cursor.next)
    | Option.none, some width => match second.bind Ending.ofSign? with
      | some ending => (ending, some width, cursor.skip 2)
      | Option.none => (.one, some width, cursor.next)
    | Option.none, Option.none => (.one, Option.none, cursor)
  if width = some 0 || !cursor.endsOr (fun c => c = ' ' || isBreak c) 0 then .error .malformed
  match cursor.endOfLine? with
  | some cursor => return (ending, width, cursor)
  | Option.none => .error .malformed

/-- The line ends before the first line that is not blank, the greatest column that spaces reach,
and the place after them. -/
def leading : Nat → Cursor → List Char × Nat × Cursor
  | 0, cursor => ([], 0, cursor)
  | fuel + 1, cursor =>
    let cursor := cursor.skipWhile (· = ' ')
    match cursor.lineBreak? with
    | Option.none => ([], cursor.column, cursor)
    | some (first, after) =>
      let (more, greatest, after) := leading fuel after
      (first :: more, max cursor.column greatest, after)

/-- The place after the spaces of a line's indentation. -/
def indented (indent : Nat) (cursor : Cursor) : Cursor :=
  cursor.skip (min (indent - cursor.column) (cursor.rest.takeWhile (· = ' ')).length)

/-- The line ends of blank lines, and the place after the indentation of the next line. -/
def breaks (indent : Nat) : Nat → Cursor → List Char × Cursor
  | 0, cursor => ([], cursor)
  | fuel + 1, cursor =>
    let cursor := indented indent cursor
    match cursor.lineBreak? with
    | Option.none => ([], cursor)
    | some (first, after) =>
      let (more, after) := breaks indent fuel after
      (first :: more, after)

/-- Whether a line of a block scalar starts at a place. -/
def seesLine (indent : Nat) (cursor : Cursor) : Bool :=
  cursor.column = indent && !cursor.rest.isEmpty

/-- The lines of a block scalar from a place on, after so many blank lines. -/
def lines (isFolded : Bool) (ending : Ending) (indent : Nat) :
    Nat → List Char → Cursor → List Char × Cursor
  | 0, _, cursor => ([], cursor)
  | fuel + 1, blank, cursor =>
    let line := cursor.rest.takeWhile (!isBreak ·)
    let cursor := cursor.skip line.length
    let (last, cursor) := match cursor.lineBreak? with
      | some (c, cursor) => ([c], cursor)
      | Option.none => ([], cursor)
    let (more, cursor) := breaks indent (cursor.rest.length + 1) cursor
    if seesLine indent cursor then
      let isJoined := isFolded && last = ['\n'] && !line.head?.any isSpace &&
        !(cursor.peek? 0).any isSpace
      let gap := if isJoined then (if more.isEmpty then [' '] else []) else last
      let (text, cursor) := lines isFolded ending indent fuel more cursor
      (blank ++ line ++ gap ++ text, cursor)
    else
      let tail := match ending with
        | .one => last
        | .none => []
        | .all => last ++ more
      (blank ++ line ++ tail, cursor)

end Block

/-- The text of a block scalar after its first character, inside of what has the given indentation,
and the place after it. -/
def Cursor.block (isFolded : Bool) (outer : Int) (cursor : Cursor) :
    Except Problem (String × Cursor) := do
  let (ending, width, cursor) ← Block.header cursor
  let least := max 1 (outer + 1).toNat
  let fuel := cursor.rest.length + 1
  let (indent, blank, cursor) := match width with
    | some width =>
      let indent := least + width - 1
      let (blank, cursor) := Block.breaks indent fuel cursor
      (indent, blank, cursor)
    | none =>
      let (blank, greatest, cursor) := Block.leading fuel cursor
      (max least greatest, blank, cursor)
  if Block.seesLine indent cursor then
    let (text, cursor) := Block.lines isFolded ending indent fuel blank cursor
    return (String.ofList text, cursor)
  else return (String.ofList (if ending = .all then blank else []), cursor)

end Yaml

end PfaScript
