import PfaScript.Literal.Quoted
import PfaScript.Text.Identifier
import PfaScript.Text.Basic

/-!
# Tokens of literals

The values of command-line overrides are written as literals: numbers, quoted texts and bytes, and
lists, tuples, mappings and sets of literals. A literal is one kind of expression, and a text is
first read as an expression of any kind, so the tokens are those of all expressions.

Blanks and comments separate tokens. A line break ends the expression, unless it stands inside
brackets or after a backslash; after the end only blank and comment lines may follow.
-/

namespace PfaScript

namespace Literal

/-- A token of an expression. -/
inductive Token where
  /-- A number. -/
  | number (value : Setting)
  /-- A quoted text. -/
  | text (value : String)
  /-- Quoted bytes. -/
  | bytes (value : List UInt8)
  /-- What stands between the quotes of a text with expressions in braces. -/
  | template (isRaw : Bool) (body : List Char)
  /-- A name. -/
  | name (value : String)
  /-- A word with a meaning of its own. -/
  | word (value : String)
  /-- A bracket, a separator or a sign. -/
  | mark (value : String)
  /-- Three points. -/
  | ellipsis
deriving Repr

/-! ### Words -/

/-- The words that cannot be names. -/
def reservedWords : List String := [
  "False", "None", "True", "and", "as", "assert", "async", "await", "break", "class", "continue",
  "def", "del", "elif", "else", "except", "finally", "for", "from", "global", "if", "import", "in",
  "is", "lambda", "nonlocal", "not", "or", "pass", "raise", "return", "try", "while", "with",
  "yield"]

/-- The small letters that a character stands for in a name: some letters have other forms, such as
those of mathematics and of full width, which make the same name. Only the letters of the one name
with a meaning are told. -/
def plainLetters (c : Char) : List Char :=
  let n := c.toNat
  if 0x1d400 ≤ n && n ≤ 0x1d6a3 && 26 ≤ (n - 0x1d400) % 52 then
    [Char.ofNat ('a'.toNat + ((n - 0x1d400) % 52 - 26))]
  else if 0xff41 ≤ n && n ≤ 0xff5a then [Char.ofNat ('a'.toNat + (n - 0xff41))]
  else if [0x17f, 0x2e2, 0x209b].contains n then ['s']
  else if [0x1d49, 0x2091, 0x212f, 0x2147].contains n then ['e']
  else if [0x1d57, 0x209c].contains n then ['t']
  else if [0xfb05, 0xfb06].contains n then ['s', 't']
  else [c]

/-- The token that a word is. -/
def wordToken? (word : List Char) : Option Token :=
  let text := String.ofList word
  if reservedWords.contains text then some (.word text)
  else if Text.isName word then some (.name (String.ofList (word.flatMap plainLetters)))
  else none

/-- The token that a quoted text with the given letters before it is. -/
def quotedToken? (letters body : List Char) : Option Token :=
  let isRaw := letters.contains 'r'
  if letters.contains 'f' then some (.template isRaw body)
  else if letters.contains 'b' then (bytesOf? isRaw body).map .bytes
  else (textOf? isRaw body).map fun cs => .text (String.ofList cs)

/-! ### Lines -/

/-- Whether a character is a blank between tokens. -/
def isBlank (c : Char) : Bool :=
  c = ' ' || c = '\t' || c = '\x0c'

/-- The rest of a text from the end of its first line on. -/
def skipLine (cs : List Char) : List Char :=
  cs.dropWhile (· ≠ '\n')

/-- The indentation that blanks make: a form feed starts the count of columns anew. -/
def columns (blanks : List Char) : Nat :=
  (blanks.reverse.takeWhile (· ≠ '\x0c')).length

/-- The text without leading lines that are blank or hold only a comment: the indentation of the
first other line, and the text from there on. A line may be continued after a backslash; if what is
before the backslash is indented, this is the indentation that counts, and it is given as `carried`.
-/
def skipBlankLines : Nat → Nat → List Char → Nat × List Char
  | 0, carried, cs => (carried, cs)
  | fuel + 1, carried, cs =>
    let here := columns (cs.takeWhile isBlank)
    let indentation := if carried = 0 then here else carried
    match cs.dropWhile isBlank with
    | '\n' :: rest => skipBlankLines fuel 0 rest
    | '#' :: rest => skipBlankLines fuel 0 (skipLine rest).tail
    | '\\' :: '\n' :: c :: rest => skipBlankLines fuel indentation (c :: rest)
    | rest => (indentation, rest)

/-- Whether only blank lines and comments are left. The last line must not be indented. -/
def isBlankToEnd (cs : List Char) : Bool :=
  let (indentation, rest) := skipBlankLines (cs.length + 1) 0 cs
  rest.isEmpty && indentation = 0

/-! ### Marks -/

/-- The marks, of which the longest that fits counts. Some of them belong to no expression. -/
def marks : List String := [
  "**=", "//=", "<<=", ">>=",
  "!=", "%=", "&=", "**", "*=", "+=", "-=", "->", "//", "/=", ":=", "<<", "<=", "<>", "==", ">=",
  ">>", "@=", "^=", "|=",
  "%", "&", "(", ")", "*", "+", ",", "-", ".", "/", ":", ";", "<", "=", ">", "@", "[", "]", "^",
  "\x7b", "|", "\x7d", "~"]

/-- The mark at the start of a text. -/
def mark? (cs : List Char) : Option String :=
  marks.find? fun mark => mark.toList.isPrefixOf cs

/-- The greatest number of brackets around something. -/
def mostBrackets : Nat := 200

/-- The nesting after a mark; there is a limit to it. -/
def depthAfter? (depth : Nat) (mark : String) : Option Nat :=
  if ["(", "[", "\x7b"].contains mark then
    if depth < mostBrackets then some (depth + 1) else none
  else if [")", "]", "\x7d"].contains mark then some (depth - 1)
  else some depth

/-! ### Texts -/

/-- The tokens of a text inside so many brackets. -/
def scan? : Nat → Nat → List Char → Option (List Token)
  | _, _, [] => some []
  | 0, _, _ => none
  | fuel + 1, depth, c :: rest =>
    if isBlank c then scan? fuel depth rest
    else if c = '#' then scan? fuel depth (skipLine rest)
    else if c = '\n' then
      if 0 < depth then scan? fuel depth rest
      else if isBlankToEnd rest then some [] else none
    else if c = '\\' then
      match rest with
      | '\n' :: d :: rest => scan? fuel depth (d :: rest)
      | _ => none
    else if c = '\'' || c = '"' then do
      let (body, rest) ← quoted? (c :: rest)
      return (← quotedToken? [] body) :: (← scan? fuel depth rest)
    else if c.isDigit || (c = '.' && rest.head?.any Char.isDigit) then do
      let (value, rest) ← number? (c :: rest)
      return .number value :: (← scan? fuel depth rest)
    else if c = '.' && rest.take 2 = ['.', '.'] then do
      return .ellipsis :: (← scan? fuel depth (rest.drop 2))
    else if isWordChar c then
      let word := c :: rest.takeWhile isWordChar
      let rest := rest.dropWhile isWordChar
      let letters := word.map Char.toLower
      if rest.head?.any (fun d => d = '\'' || d = '"') && quoteLetters.contains letters then do
        let (body, rest) ← quoted? rest
        return (← quotedToken? letters body) :: (← scan? fuel depth rest)
      else do return (← wordToken? word) :: (← scan? fuel depth rest)
    else do
      let mark ← mark? (c :: rest)
      let depth ← depthAfter? depth mark
      return .mark mark :: (← scan? fuel depth (rest.drop (mark.length - 1)))

/-- The tokens of a whole text. Its first line must not be indented, and it may not hold the null
character. -/
def tokens? (cs : List Char) : Option (List Token) :=
  if cs.contains '\x00' then none else
  let (indentation, cs) := skipBlankLines (cs.length + 1) 0 cs
  if indentation = 0 then scan? (cs.length + 1) 0 cs else none

end Literal

end PfaScript
