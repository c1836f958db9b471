import PfaScript.Json.Basic
import PfaScript.Number.Layout
import PfaScript.Yaml.Plain

/-!
# Writing YAML

`Yaml.render` writes a mapping as a YAML text in block style: every entry and every item has a line
of its own, and only empty lists and mappings are written in brackets. Mappings are indented by two
spaces; the items of a list that is the value of a key stand under the key.

A text is written plainly if it reads back as the same text, between single quotes otherwise, and
between double quotes if it has characters that must be escaped. Long texts are folded: a single
space beyond column eighty may become a line break.
-/

namespace PfaScript

namespace Yaml

namespace Printer

/-! ### Classes of characters -/

/-- The characters that break a line. -/
def isBreak (c : Char) : Bool :=
  c = '\n' || c = '\x85' || c = '\u2028' || c = '\u2029'

/-- The characters that end a word. -/
def isSpace (c : Char) : Bool :=
  c = '\x00' || c = ' ' || c = '\t' || c = '\r' || isBreak c

/-- The characters that must be escaped. -/
def isSpecial (c : Char) : Bool :=
  let n := c.toNat
  !(c = '\n' || (0x20 ≤ n && n ≤ 0x7e)) &&
    !((n = 0x85 || (0xa0 ≤ n && n ≤ 0xd7ff) || (0xe000 ≤ n && n ≤ 0xfffd) ||
      (0x10000 ≤ n && n < 0x10ffff)) && n ≠ 0xfeff)

/-- The characters that mean something at the start of a scalar. -/
def isIndicator (c : Char) : Bool :=
  "#,[]\x7b\x7d&*!|>'\"%@`".toList.contains c

/-! ### Styles of texts -/

/-- Whether the next character ends a word. -/
def endsWord (rest : List Char) : Bool :=
  rest.head?.all isSpace

/-- Whether the characters after the first one, `previous` being the one before them, may stand in a
plain scalar: no colon may end a word and no number sign may begin one. -/
def plainRest (previous : Char) : List Char → Bool
  | [] => true
  | c :: rest =>
    !(c = ':' && endsWord rest) && !(c = '#' && isSpace previous) && plainRest c rest

/-- Whether a text may begin and go on as a plain scalar does. -/
def plainShape : List Char → Bool
  | [] => false
  | c :: rest =>
    !isIndicator c && !((c = '?' || c = ':' || c = '-') && endsWord rest) && plainRest c rest

/-- Whether a text can be written without quotes. -/
def allowsPlain (cs : List Char) : Bool :=
  Plain.classify cs = .text && plainShape cs &&
    !"---".toList.isPrefixOf cs && !"...".toList.isPrefixOf cs &&
    cs.head? ≠ some ' ' && cs.getLast? ≠ some ' ' && !cs.any isBreak && !cs.any isSpecial

/-- Whether a space stands next to a line break. -/
def hasSpaceAtBreak : List Char → Bool
  | a :: b :: rest =>
    (a = ' ' && isBreak b) || (isBreak a && b = ' ') || hasSpaceAtBreak (b :: rest)
  | _ => false

/-- Whether a text can be written between single quotes. -/
def allowsSingle (cs : List Char) : Bool :=
  !cs.any isSpecial && !hasSpaceAtBreak cs

/-! ### Scalars -/

/-- The column after which a line is broken. -/
def width : Nat := 80

/-- Spaces. -/
def spaces (n : Nat) : List Char :=
  List.replicate n ' '

/-- A line break and the indentation of the next line. -/
def newLine (indent : Nat) : List Char :=
  '\n' :: spaces indent

/-- A plain scalar from the given column on; `previous` is the character before. -/
def plain (folds : Bool) (indent column : Nat) (previous : Option Char) : List Char → List Char
  | [] => []
  | c :: rest =>
    if c = ' ' && folds && previous ≠ some ' ' && rest.head? ≠ some ' ' && width < column then
      newLine indent ++ plain folds indent indent (some c) rest
    else c :: plain folds indent (column + 1) (some c) rest

/-- The inside of a single-quoted scalar from the given column on. A run of line breaks is written
with one more, since a single one would be read as a space. -/
def single (folds : Bool) (indent column : Nat) (previous : Option Char) : List Char → List Char
  | [] => []
  | c :: rest =>
    if isBreak c then
      let extra := if c = '\n' && !previous.any isBreak then ['\n'] else []
      if rest.head?.any isBreak then extra ++ c :: single folds indent 0 (some c) rest
      else extra ++ c :: (spaces indent ++ single folds indent indent (some c) rest)
    else if c = '\'' then '\'' :: '\'' :: single folds indent (column + 2) (some c) rest
    else if c = ' ' && folds && previous.isSome && previous ≠ some ' ' && !rest.isEmpty &&
        rest.head? ≠ some ' ' && width < column then
      newLine indent ++ single folds indent indent (some c) rest
    else c :: single folds indent (column + 1) (some c) rest

/-- The last `width` hexadecimal digits of a number, in upper case. -/
def hexDigits : Nat → Nat → List Char
  | 0, _ => []
  | width + 1, n => hexDigits width (n / 16) ++ [(Nat.digitChar (n % 16)).toUpper]

/-- The letter of a character that has an escape of its own. -/
def escapeLetter? (c : Char) : Option Char :=
  [('\x00', '0'), ('\x07', 'a'), ('\x08', 'b'), ('\t', 't'), ('\n', 'n'), ('\x0b', 'v'),
    ('\x0c', 'f'), ('\r', 'r'), ('\x1b', 'e'), ('"', '"'), ('\\', '\\'), ('\x85', 'N'),
    ('\u2028', 'L'), ('\u2029', 'P')].lookup c

/-- The escape of a character that is not written as it is between double quotes. -/
def escape? (c : Char) : Option (List Char) :=
  let n := c.toNat
  match escapeLetter? c with
  | some letter => some ['\\', letter]
  | none =>
    if (0x20 ≤ n && n ≤ 0x7e) || (0xa0 ≤ n && n ≤ 0xd7ff) ||
        (0xe000 ≤ n && n ≤ 0xfffd && n ≠ 0xfeff) then none
    else if n ≤ 0xff then some ('\\' :: 'x' :: hexDigits 2 n)
    else if n ≤ 0xffff then some ('\\' :: 'u' :: hexDigits 4 n)
    else some ('\\' :: 'U' :: hexDigits 8 n)

/-- The inside of a double-quoted scalar from the given column on. A line can be broken before a
space and next to an escape; a backslash ends the line, and another keeps a space that begins the
next one. -/
def double (folds : Bool) (indent column : Nat) (first afterEscape : Bool) :
    List Char → List Char
  | [] => []
  | c :: rest =>
    let breakable := folds && !first && !rest.isEmpty
    match escape? c with
    | some escape =>
      let column := column + escape.length
      if breakable && width < column - 1 then
        if rest.head? = some ' ' then
          escape ++ '\\' :: (newLine indent ++
            '\\' :: double folds indent (indent + 1) false true rest)
        else escape ++ '\\' :: (newLine indent ++ double folds indent indent false true rest)
      else escape ++ double folds indent column false true rest
    | none =>
      if breakable && (c = ' ' || afterEscape) && width < column then
        if c = ' ' then
          '\\' :: (newLine indent ++ '\\' :: c :: double folds indent (indent + 2) false false rest)
        else '\\' :: (newLine indent ++ c :: double folds indent (indent + 1) false false rest)
      else c :: double folds indent (column + 1) false false rest

/-- A text from the given column on, with its quotes; further lines have the given indentation. -/
def text (folds : Bool) (indent column : Nat) (s : String) : List Char :=
  let cs := s.toList
  if allowsPlain cs then plain folds indent column none cs
  else if allowsSingle cs then '\'' :: (single folds indent (column + 1) none cs ++ ['\''])
  else '"' :: (double folds indent (column + 1) true false cs ++ ['"'])

/-- A value without items from the given column on. -/
def scalar (indent column : Nat) : Json → List Char
  | .null => "null".toList
  | .bool true => "true".toList
  | .bool false => "false".toList
  | .int n => (toString n).toList
  | .float x => (Layout.yaml.text x).toList
  | .str s => text true indent column s
  | .arr _ => ['[', ']']
  | .obj _ => ['{', '}']

/-! ### Blocks -/

/-- Where a value stands. -/
inductive Place where
  /-- After a mark of two characters, `- `, `? ` or `: `, in the given column. -/
  | afterMark (indent : Nat)
  /-- After a key and its colon, in a mapping with the given indentation; the colon ends before the
  given column. -/
  | afterKey (indent column : Nat)

/-- Whether a key stands on one line with its value: it is neither empty nor long nor broken. -/
def isSimpleKey (key : String) : Bool :=
  let cs := key.toList
  !cs.isEmpty && cs.length ≤ 122 && !cs.any isBreak

/-- A key with what separates it from its value, in a mapping with the given indentation. -/
def keyText (indent : Nat) (key : String) : List Char :=
  if isSimpleKey key then text false (indent + 2) indent key ++ [':']
  else '?' :: ' ' :: (text true (indent + 2) (indent + 2) key ++ newLine indent ++ [':', ' '])

/-- The place of the value of a key. -/
def placeOfValue (indent : Nat) (key : String) : Place :=
  if isSimpleKey key then
    .afterKey indent (indent + (text false (indent + 2) indent key).length + 1)
  else .afterMark indent

mutual

/-- A value in its place, up to the end of its last line. -/
def value : Place → Json → List Char
  | .afterMark indent, .arr (item :: rest) =>
    '-' :: ' ' :: (value (.afterMark (indent + 2)) item ++ items (indent + 2) rest)
  | .afterKey indent _, .arr (item :: rest) =>
    newLine indent ++ '-' :: ' ' :: (value (.afterMark indent) item ++ items indent rest)
  | .afterMark indent, .obj ((key, item) :: rest) =>
    keyText (indent + 2) key ++ value (placeOfValue (indent + 2) key) item ++
      entries (indent + 2) rest
  | .afterKey indent _, .obj ((key, item) :: rest) =>
    newLine (indent + 2) ++ keyText (indent + 2) key ++
      value (placeOfValue (indent + 2) key) item ++ entries (indent + 2) rest
  | .afterMark indent, v => scalar (indent + 2) (indent + 2) v ++ ['\n']
  | .afterKey indent column, v => ' ' :: (scalar (indent + 2) (column + 1) v ++ ['\n'])

/-- The lines of a list's items. -/
def items (indent : Nat) : List Json → List Char
  | [] => []
  | item :: rest =>
    spaces indent ++ '-' :: ' ' :: (value (.afterMark indent) item ++ items indent rest)

/-- The lines of a mapping's entries. -/
def entries (indent : Nat) : List (String × Json) → List Char
  | [] => []
  | (key, item) :: rest =>
    spaces indent ++ keyText indent key ++ value (placeOfValue indent key) item ++
      entries indent rest

end

end Printer

/-- The text of a mapping. -/
def render (fields : Entries String Json) : String :=
  if fields.isEmpty then "\x7b\x7d\n" else String.ofList (Printer.entries 0 fields)

end Yaml

end PfaScript
