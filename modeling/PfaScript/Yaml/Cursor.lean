/-!
# Places in a YAML text

What a token means depends on where it stands, so reading keeps track of lines and columns. A
`Cursor` is what is left of a text, together with its place.
-/

namespace PfaScript

namespace Yaml

/-- Whether a character ends a line. -/
def isBreak (c : Char) : Bool :=
  c = '\n' || c = '\x85' || c = '\u2028' || c = '\u2029'

/-- Whether a character is a space or a tab. -/
def isSpace (c : Char) : Bool :=
  c = ' ' || c = '\t'

/-- A place in a text. -/
structure Cursor where
  /-- What follows. -/
  rest : List Char
  /-- The number of characters before. -/
  index : Nat
  line : Nat
  column : Nat
deriving Repr

namespace Cursor

/-- The place after the next character. A byte order mark takes no column. -/
def next (cursor : Cursor) : Cursor :=
  match cursor.rest with
  | [] => cursor
  | c :: rest =>
    if isBreak c then ⟨rest, cursor.index + 1, cursor.line + 1, 0⟩
    else ⟨rest, cursor.index + 1, cursor.line,
      if c = '\ufeff' then cursor.column else cursor.column + 1⟩

/-- The place after so many characters. -/
def skip : Nat → Cursor → Cursor
  | 0, cursor => cursor
  | n + 1, cursor => skip n cursor.next

/-- The place after all next characters of a kind. -/
def skipWhile (p : Char → Bool) (cursor : Cursor) : Cursor :=
  cursor.skip (cursor.rest.takeWhile p).length

/-- The character so many characters ahead. -/
def peek? (n : Nat) (cursor : Cursor) : Option Char :=
  (cursor.rest.drop n).head?

/-- Whether a character satisfies a condition so many characters ahead, or the text ends there. -/
def endsOr (p : Char → Bool) (n : Nat) (cursor : Cursor) : Bool :=
  (cursor.peek? n).all p

/-- Whether a word ends so many characters ahead. -/
def endsWord (n : Nat) (cursor : Cursor) : Bool :=
  cursor.endsOr (fun c => isSpace c || isBreak c) n

/-- The line end that comes next, as it counts in scalars, and the place after it. -/
def lineBreak? (cursor : Cursor) : Option (Char × Cursor) :=
  match cursor.rest with
  | [] => none
  | c :: _ =>
    if isBreak c then some (if c = '\x85' then '\n' else c, cursor.next) else none

/-- Whether the mark of a document's start or end comes next. -/
def seesDocumentMark (cursor : Cursor) : Bool :=
  [['-', '-', '-'], ['.', '.', '.']].contains (cursor.rest.take 3) && cursor.endsWord 3

/-- The place at the end of the line, if only spaces and a comment are left of it. -/
def endOfLine? (cursor : Cursor) : Option Cursor :=
  let cursor := cursor.skipWhile (· = ' ')
  let cursor := if cursor.peek? 0 = some '#' then cursor.skipWhile (!isBreak ·) else cursor
  if cursor.endsOr isBreak 0 then some (cursor.lineBreak?.elim cursor Prod.snd) else none

end Cursor

/-- What a line end in a scalar stands for, with those that follow it: a single line feed is a
space, and of several the first does not count. -/
def folded (first : Char) (more : List Char) : List Char :=
  if first ≠ '\n' then first :: more
  else if more.isEmpty then [' ']
  else more

end Yaml

end PfaScript
