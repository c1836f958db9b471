import PfaScript.Json.Reader
import PfaScript.Literal.Number
import PfaScript.Text.CharName

/-!
# Quoted texts in literals

Texts and bytes stand between single or double quotes, one or three of them at each end. Letters
before the first quote say what is quoted: `b` stands for bytes, `r` keeps backslashes as they are,
and `f` makes a text with expressions in braces.
-/

namespace PfaScript

namespace Literal

/-- What stands between quotes, with its escapes, and the rest of the text. A backslash takes the
next character with it. Three quotes can span lines. -/
def quotedBody? (quote : Char) (triple : Bool) : List Char → Option (List Char × List Char)
  | [] => none
  | '\\' :: c :: rest => do
    let (body, rest) ← quotedBody? quote triple rest
    return ('\\' :: c :: body, rest)
  | c :: rest =>
    if c = quote && !triple then some ([], rest)
    else if c = quote && rest.take 2 = [quote, quote] then some ([], rest.drop 2)
    else if c = '\n' && !triple then none
    else do
      let (body, rest) ← quotedBody? quote triple rest
      return (c :: body, rest)

/-- A quoted text without its quotes, and the rest of the text. -/
def quoted? : List Char → Option (List Char × List Char)
  | quote :: rest =>
    if rest.take 2 = [quote, quote] then quotedBody? quote true (rest.drop 2)
    else quotedBody? quote false rest
  | [] => none

/-! ### Escapes -/

/-- The number written by hexadecimal digits, all of which are given. -/
def hexNumber? (digits : List Char) : Option Nat :=
  digits.foldlM (fun n c => do return 16 * n + (← Json.Reader.hexValue? c)) 0

/-- The character with this code. -/
def charOfCode? (code : Nat) : Option Char :=
  if code < 0x110000 then some (Json.Reader.charOfUnit code) else none

/-- Whether a character is an octal digit. -/
def isOctal (c : Char) : Bool := '0' ≤ c && c ≤ '7'

/-- The character of a one-letter escape. -/
def simpleEscape? : Char → Option Char
  | '\\' => some '\\'
  | '\'' => some '\''
  | '"' => some '"'
  | 'a' => some '\x07'
  | 'b' => some '\x08'
  | 'f' => some '\x0c'
  | 'n' => some '\n'
  | 'r' => some '\r'
  | 't' => some '\t'
  | 'v' => some '\x0b'
  | _ => none

/-- The number of hexadecimal digits of an escape by number. Texts have more of them than bytes. -/
def escapeWidth? (isText : Bool) : Char → Option Nat
  | 'x' => some 2
  | 'u' => if isText then some 4 else none
  | 'U' => if isText then some 8 else none
  | _ => none

/-- The code of the character whose name stands in braces at the start of the text, and the number
of characters that this takes. -/
def namedCode? : List Char → Option (Nat × Nat)
  | '{' :: rest => do
    let name := rest.takeWhile (· ≠ '}')
    if name.length < rest.length then return (← Text.codeNamed? name, name.length + 2) else none
  | _ => none

/-- The codes of the characters or bytes that a quoted text stands for. An unknown escape stands for
itself. -/
def unescape? (isText : Bool) : Nat → List Char → Option (List Nat)
  | 0, _ => some []
  | _, [] => some []
  | fuel + 1, '\\' :: c :: rest =>
    match simpleEscape? c, escapeWidth? isText c with
    | some plain, _ => do return plain.toNat :: (← unescape? isText fuel rest)
    | none, some width => do
      if rest.length < width then none else
      let code ← hexNumber? (rest.take width)
      return code :: (← unescape? isText fuel (rest.drop width))
    | none, none =>
      if c = '\n' then unescape? isText fuel rest
      else if isOctal c then do
        let more := (rest.take 2).takeWhile isOctal
        return natInBase 8 (c :: more) :: (← unescape? isText fuel (rest.drop more.length))
      else if isText && c = 'N' then do
        let (code, length) ← namedCode? rest
        return code :: (← unescape? isText fuel (rest.drop length))
      else do return '\\'.toNat :: (← unescape? isText fuel (c :: rest))
  | fuel + 1, c :: rest => do return c.toNat :: (← unescape? isText fuel rest)

/-- The text that a quoted text stands for. -/
def textOf? (isRaw : Bool) (body : List Char) : Option (List Char) := do
  if isRaw then return body else (← unescape? true body.length body).mapM charOfCode?

/-- The bytes that quoted bytes stand for. -/
def bytesOf? (isRaw : Bool) (body : List Char) : Option (List UInt8) := do
  if body.any (0x80 ≤ ·.toNat) then none else
  let codes ← if isRaw then some (body.map Char.toNat) else unescape? false body.length body
  return codes.map UInt8.ofNat

/-- The letters that can stand before a quote, in lower case. -/
def quoteLetters : List (List Char) :=
  ["", "r", "u", "b", "br", "rb", "f", "fr", "rf"].map String.toList

/-! ### Texts with expressions -/

/-- The text before the next expression in braces, and the rest from its brace on. Braces that are
part of the text are doubled; in the format of an expression there are none, and a closing brace
ends it. -/
def textPart? (isRaw isFormat : Bool) : Nat → List Char → Option (List Char × List Char)
  | 0, _ => none
  | _, [] => some ([], [])
  | fuel + 1, c :: rest =>
    let plain (taken : List Char) (rest : List Char) : Option (List Char × List Char) := do
      let (text, rest) ← textPart? isRaw isFormat fuel rest
      return (taken ++ text, rest)
    if c = '\\' && !isRaw then
      match rest with
      | 'N' :: after =>
        let length := (after.takeWhile (· ≠ '}')).length + 1
        plain (c :: 'N' :: after.take length) (after.drop length)
      | d :: after => if d = '{' || d = '}' then plain [c] rest else plain [c, d] after
      | [] => plain [c] rest
    else if c = '{' || c = '}' then
      if isFormat then some ([], c :: rest)
      else match rest with
        | d :: after =>
          if d = c then plain [c] after
          else if c = '{' then some ([], c :: rest) else none
        | [] => if c = '{' then some ([], [c]) else none
    else plain [c] rest

/-- Whether two brackets belong together. -/
def isBracketPair (first last : Char) : Bool :=
  [('(', ')'), ('[', ']'), ('{', '}')].contains (first, last)

/-- The text of an expression in braces after its opening brace, and the rest from the mark that
ends it: a closing brace, a colon, an exclamation mark or an equals sign outside of brackets and
quotes. Neither backslashes nor comments may occur. The quotes that are open, and the brackets that
are open, are given. -/
def expressionPart? (quotes : List Char) (brackets : List Char) :
    Nat → List Char → Option (List Char × List Char)
  | 0, _ => none
  | _, [] => none
  | fuel + 1, c :: rest =>
    let goOn (quotes brackets : List Char) (taken : List Char) (rest : List Char) :
        Option (List Char × List Char) := do
      let (text, rest) ← expressionPart? quotes brackets fuel rest
      return (taken ++ text, rest)
    if c = '\\' then none
    else if !quotes.isEmpty then
      if quotes.isPrefixOf (c :: rest) then goOn [] brackets quotes ((c :: rest).drop quotes.length)
      else goOn quotes brackets [c] rest
    else if c = '\'' || c = '"' then
      if rest.take 2 = [c, c] then goOn [c, c, c] brackets [c, c, c] (rest.drop 2)
      else goOn [c] brackets [c] rest
    else if c = '(' || c = '[' || c = '{' then goOn [] (c :: brackets) [c] rest
    else if c = '#' then none
    else if brackets.isEmpty && ['!', '=', '<', '>'].contains c && rest.head? = some '=' then
      goOn [] brackets [c, '='] rest.tail
    else if brackets.isEmpty && ['!', ':', '}', '='].contains c then some ([], c :: rest)
    else if c = ')' || c = ']' || c = '}' then
      match brackets with
      | first :: brackets => if isBracketPair first c then goOn [] brackets [c] rest else none
      | [] => none
    else goOn [] brackets [c] rest

/-- The rest after what may stand between an expression in braces and its format: an equals sign
with blanks, and a conversion. -/
def afterConversion? (cs : List Char) : Option (List Char) :=
  let isSpace (c : Char) : Bool := [' ', '\t', '\n', '\r', '\x0b', '\x0c'].contains c
  let cs := match cs with
    | '=' :: rest => rest.dropWhile isSpace
    | _ => cs
  match cs with
  | '!' :: c :: rest => if ['s', 'r', 'a'].contains c then some rest else none
  | ['!'] => none
  | _ => some cs

end Literal

end PfaScript
