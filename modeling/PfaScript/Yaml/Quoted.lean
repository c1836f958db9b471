import PfaScript.Json.Reader
import PfaScript.Yaml.Cursor
import PfaScript.Yaml.Problem

/-!
# Quoted scalars

Scalars between single quotes, in which two quotes stand for one, and scalars between double quotes,
in which backslashes begin escapes. Both may go on over several lines, which are folded.
-/

namespace PfaScript

namespace Yaml

namespace Quoted

/-- The character of a one-letter escape. -/
def escaped? (c : Char) : Option Char :=
  [('0', '\x00'), ('a', '\x07'), ('b', '\x08'), ('t', '\t'), ('\t', '\t'), ('n', '\n'),
    ('v', '\x0b'), ('f', '\x0c'), ('r', '\r'), ('e', '\x1b'), (' ', ' '), ('"', '"'), ('/', '/'),
    ('\\', '\\'), ('N', '\x85'), ('_', '\xa0'), ('L', '\u2028'), ('P', '\u2029')].lookup c

/-- The number of hexadecimal digits of an escape by number. -/
def escapeWidth? : Char → Option Nat
  | 'x' => some 2
  | 'u' => some 4
  | 'U' => some 8
  | _ => none

/-- The character of an escape by number. -/
def numbered (width : Nat) (cs : List Char) : Except Problem Char :=
  match (cs.take width).mapM Json.Reader.hexValue? with
  | none => .error .malformed
  | some digits =>
    let code := digits.foldl (fun n digit => 16 * n + digit) 0
    if digits.length < width then .error .malformed
    else if 0x80000000 ≤ code then .error .codeTooLarge
    else if 0x110000 ≤ code then .error .noSuchCharacter
    else .ok (Json.Reader.charOfUnit code)

/-- The line ends that follow a line end, with spaces between them. The mark of a document cannot
stand inside a quoted scalar. -/
def breaks : Nat → Cursor → Except Problem (List Char × Cursor)
  | 0, _ => .error .malformed
  | fuel + 1, cursor =>
    if cursor.seesDocumentMark then .error .malformed
    else
      let cursor := cursor.skipWhile isSpace
      match cursor.lineBreak? with
      | none => .ok ([], cursor)
      | some (first, cursor) => do
        let (more, cursor) ← breaks fuel cursor
        return (first :: more, cursor)

/-- What is left of a quoted scalar, and the place after its closing quote. -/
def body (quote : Char) : Nat → Cursor → Except Problem (List Char × Cursor)
  | 0, _ => .error .malformed
  | fuel + 1, cursor =>
    let after (text : List Char) (cursor : Cursor) : Except Problem (List Char × Cursor) := do
      let (more, cursor) ← body quote fuel cursor
      return (text ++ more, cursor)
    match cursor.rest with
    | [] => .error .malformed
    | c :: rest =>
      if c = quote then
        if c = '\'' && rest.head? = some '\'' then after ['\''] (cursor.skip 2)
        else .ok ([], cursor.next)
      else if isSpace c || isBreak c then do
        let spaces := cursor.rest.takeWhile isSpace
        let cursor := cursor.skip spaces.length
        match cursor.lineBreak? with
        | none => after spaces cursor
        | some (first, cursor) =>
          let (more, cursor) ← breaks fuel cursor
          after (folded first more) cursor
      else if c = '\\' && quote = '"' then do
        match rest with
        | [] => .error .malformed
        | e :: rest =>
          match escaped? e, escapeWidth? e with
          | some plain, _ => after [plain] (cursor.skip 2)
          | none, some width => after [← numbered width rest] (cursor.skip (2 + width))
          | none, none =>
            if isBreak e then
              let (more, cursor) ← breaks fuel (cursor.skip 2)
              after more cursor
            else .error .malformed
      else after [c] cursor.next

end Quoted

/-- The text of a quoted scalar that starts at a place, and the place after it. -/
def Cursor.quoted (cursor : Cursor) : Except Problem (String × Cursor) := do
  let (text, after) ← Quoted.body (cursor.rest.headD '"') (cursor.rest.length + 1) cursor.next
  return (String.ofList text, after)

end Yaml

end PfaScript
