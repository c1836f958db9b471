import PfaScript.Yaml.Cursor

/-!
# Scalars without quotes

A scalar without quotes ends before a comment and before a colon that ends a word; inside brackets
also before a comma, a question mark and a bracket. It may go on over several lines, which are
folded, as long as they are indented more than what holds the scalar.
-/

namespace PfaScript

namespace Yaml

namespace Unquoted

/-- Whether a scalar can start at a place. -/
def isStart (inBrackets : Bool) (cursor : Cursor) : Bool :=
  match cursor.peek? 0 with
  | none => false
  | some c =>
    if c = '-' then !cursor.endsWord 1
    else if c = '?' || c = ':' then !inBrackets && !cursor.endsWord 1
    else !isSpace c && !isBreak c && !",[]\x7b\x7d#&*!|>'\"%@`".toList.contains c

/-- The longest beginning of a text that holds no blank and no mark that ends a scalar. -/
def run (inBrackets : Bool) : List Char → List Char
  | [] => []
  | c :: rest =>
    let isMark (marks : String) (c : Char) : Bool := inBrackets && marks.toList.contains c
    let ends := isSpace c || isBreak c || isMark ",?[]\x7b\x7d" c ||
      (c = ':' && rest.head?.all fun d => isSpace d || isBreak d || isMark ",[]\x7b\x7d" d)
    if ends then [] else c :: run inBrackets rest

/-- The line ends that follow a line end, with spaces between them; `none` if the mark of a document
follows. -/
def breaks : Nat → Cursor → Option (List Char) × Cursor
  | 0, cursor => (some [], cursor)
  | fuel + 1, cursor =>
    let ahead := cursor.skipWhile (· = ' ')
    match ahead.lineBreak? with
    | none => (some [], ahead)
    | some (first, cursor) =>
      if cursor.seesDocumentMark then (none, cursor)
      else
        let (more, cursor) := breaks fuel cursor
        (more.map (first :: ·), cursor)

/-- What stands between two parts of a scalar, and the place after it; and whether a line ends
there. If the scalar ends before this, nothing stands there. -/
def between (cursor : Cursor) : List Char × Cursor × Bool :=
  let spaces := cursor.rest.takeWhile (· = ' ')
  let cursor := cursor.skip spaces.length
  match cursor.lineBreak? with
  | none => (spaces, cursor, false)
  | some (first, cursor) =>
    if cursor.seesDocumentMark then ([], cursor, true)
    else match breaks (cursor.rest.length + 1) cursor with
      | (none, cursor) => ([], cursor, true)
      | (some more, cursor) => (folded first more, cursor, true)

/-- A scalar from a place on; the place after it and after the blanks behind it; and whether a line
ends there. The lines of a scalar outside of brackets have at least the given indentation. -/
def body (inBrackets : Bool) (least : Int) : Nat → Cursor → List Char × Cursor × Bool
  | 0, cursor => ([], cursor, false)
  | fuel + 1, cursor =>
    let text := run inBrackets cursor.rest
    let (gap, after, isCrossed) := between (cursor.skip text.length)
    let isLast := gap.isEmpty || after.peek? 0 = some '#' ||
      (!inBrackets && (after.column : Int) < least) || (run inBrackets after.rest).isEmpty
    if isLast then (text, after, isCrossed)
    else
      let (more, after, isCrossed) := body inBrackets least fuel after
      (text ++ gap ++ more, after, isCrossed)

end Unquoted

end Yaml

end PfaScript
