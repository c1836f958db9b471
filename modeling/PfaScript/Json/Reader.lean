import PfaScript.Json.Basic

/-!
# Reading JSON

`Json.read?` reads a text as one JSON value. Besides standard JSON the words `NaN`, `Infinity` and
`-Infinity` are numbers, and an integer may not have too many digits. Of two fields with one name
the last value counts, at the place of the first.

Texts are made of characters, so the lone half of a surrogate pair, which an escape can write, has
no place in one: it is read as the replacement character. Texts that differ in such halves only are
not told apart.

Readers work on the list of characters still to be read, so a fault is reported by the rest of the
text at the place where it was found; `ReadError` turns that into line, column and offset.
-/

namespace PfaScript

namespace Json

/-- Why a text is not JSON. -/
inductive ReadError.Cause where
  | expectingValue
  | extraData
  | expectingName
  | expectingColon
  | expectingComma
  | unterminatedString
  | controlCharacter
  | badEscape
  | badUnicodeEscape
  | byteOrderMark
  /-- An integer has this number of digits, which is too many. -/
  | longInteger (digits : Nat)
deriving DecidableEq, Repr

/-- The wording of a cause. -/
def ReadError.Cause.text : ReadError.Cause → String
  | .expectingValue => "Expecting value"
  | .extraData => "Extra data"
  | .expectingName => "Expecting property name enclosed in double quotes"
  | .expectingColon => "Expecting ':' delimiter"
  | .expectingComma => "Expecting ',' delimiter"
  | .unterminatedString => "Unterminated string starting at"
  | .controlCharacter => "Invalid control character at"
  | .badEscape => "Invalid \\escape"
  | .badUnicodeEscape => "Invalid \\uXXXX escape"
  | .byteOrderMark => "Unexpected UTF-8 BOM (decode using utf-8-sig)"
  | .longInteger digits => Integer.longTextMessage digits

/-- A fault in a JSON text. -/
structure ReadError where
  /-- What is wrong. -/
  cause : ReadError.Cause
  /-- The line, counted from one. -/
  line : Nat
  /-- The character of the line, counted from one. -/
  column : Nat
  /-- The character of the text, counted from zero. -/
  offset : Nat
deriving DecidableEq, Repr

/-- Whether a fault lies in the form of the text; otherwise it lies in the size of an integer. -/
def ReadError.isFormal (e : ReadError) : Bool :=
  match e.cause with
  | .longInteger _ => false
  | _ => true

/-- The full wording of a fault. The place of an integer is not told. -/
def ReadError.message (e : ReadError) : String :=
  if e.isFormal then s!"{e.cause.text}: line {e.line} column {e.column} (char {e.offset})"
  else e.cause.text

/-- The fault found after the given beginning of a text. -/
def ReadError.after (cause : ReadError.Cause) (before : List Char) : ReadError :=
  let line := before.count '\n' + 1
  let column := (before.reverse.takeWhile (· != '\n')).length + 1
  ⟨cause, line, column, before.length⟩

namespace Reader

/-- A cause together with the rest of the text where it was found. -/
abbrev Fault := ReadError.Cause × List Char

/-- The characters that may stand between the parts of a value. -/
def isBlank (c : Char) : Bool :=
  c = ' ' || c = '\t' || c = '\n' || c = '\r'

/-- The rest of a text after leading blanks. -/
def skipBlanks (cs : List Char) : List Char :=
  cs.dropWhile isBlank

/-! ### Numbers -/

/-- The natural number written by decimal digits. -/
def natOfDigits (digits : List Char) : Nat :=
  digits.foldl (fun n c => 10 * n + (c.toNat - '0'.toNat)) 0

/-- The fraction after a number's whole part: a point counts only before a digit. -/
def fraction (cs : List Char) : List Char × List Char :=
  match cs with
  | '.' :: rest =>
    match rest.takeWhile Char.isDigit with
    | [] => ([], cs)
    | digits => (digits, rest.dropWhile Char.isDigit)
  | _ => ([], cs)

/-- Whether a minus sign stands before digits, and the text after the sign, if there is one. -/
def sign : List Char → Bool × List Char
  | '-' :: rest => (true, rest)
  | '+' :: rest => (false, rest)
  | cs => (false, cs)

/-- The exponent after a number: the letter counts only before a digit or a sign and a digit. -/
def exponent? : List Char → Option (Int × List Char)
  | e :: rest =>
    if e = 'e' ∨ e = 'E' then
      let (negative, rest) := sign rest
      match rest.takeWhile Char.isDigit with
      | [] => none
      | digits =>
        let size : Int := natOfDigits digits
        some (if negative then -size else size, rest.dropWhile Char.isDigit)
    else none
  | [] => none

/-- A number without its sign, of which the whole part has been read. -/
def numberTail (negative : Bool) (whole : List Char) (cs : List Char) : Json × List Char :=
  let (digits, rest) := fraction cs
  match digits, exponent? rest with
  | [], none =>
    let size : Int := natOfDigits whole
    (.int (if negative then -size else size), rest)
  | _, exponent =>
    let (power, rest) := exponent.getD (0, rest)
    (.float (Double.ofDecimal negative (natOfDigits (whole ++ digits)) (power - digits.length)),
      rest)

/-- A number without its sign: a zero, or digits that do not begin with zero. -/
def unsignedNumber? (negative : Bool) : List Char → Option (Json × List Char)
  | '0' :: rest => some (numberTail negative ['0'] rest)
  | c :: rest =>
    if c.isDigit then
      some (numberTail negative (c :: rest.takeWhile Char.isDigit) (rest.dropWhile Char.isDigit))
    else none
  | [] => none

/-- A number with its sign, of any size. -/
def signedNumber? (cs : List Char) : Option (Json × List Char) :=
  match cs with
  | '-' :: rest => unsignedNumber? true rest
  | _ => unsignedNumber? false cs

/-- A number; nothing else may start a value here. -/
def number (cs : List Char) : Except Fault (Json × List Char) :=
  match signedNumber? cs with
  | some (.int n, rest) =>
    if Integer.isLong n then .error (.longInteger (Integer.digitCount n), cs)
    else .ok (.int n, rest)
  | some result => .ok result
  | none => .error (.expectingValue, cs)

/-! ### Strings -/

/-- The value of a hexadecimal digit. -/
def hexValue? (c : Char) : Option Nat :=
  if '0' ≤ c ∧ c ≤ '9' then some (c.toNat - '0'.toNat)
  else if 'a' ≤ c ∧ c ≤ 'f' then some (c.toNat - 'a'.toNat + 10)
  else if 'A' ≤ c ∧ c ≤ 'F' then some (c.toNat - 'A'.toNat + 10)
  else none

/-- The number written by four hexadecimal digits. -/
def hex4? (a b c d : Char) : Option Nat := do
  return 4096 * (← hexValue? a) + 256 * (← hexValue? b) + 16 * (← hexValue? c) + (← hexValue? d)

/-- The character that a one-letter escape stands for. -/
def escaped? : Char → Option Char
  | '"' => some '"'
  | '\\' => some '\\'
  | '/' => some '/'
  | 'b' => some '\x08'
  | 'f' => some '\x0c'
  | 'n' => some '\n'
  | 'r' => some '\r'
  | 't' => some '\t'
  | _ => none

/-- The code units of a string's characters up to its closing quote; `start` is the text from the
opening quote on. -/
def units (start : List Char) : List Char → Except Fault (List Nat × List Char)
  | [] => .error (.unterminatedString, start)
  | '"' :: rest => .ok ([], rest)
  | ['\\'] => .error (.unterminatedString, start)
  | '\\' :: 'u' :: a :: b :: c :: d :: e :: rest =>
    match hex4? a b c d with
    | some unit => do
      let (tail, rest) ← units start (e :: rest)
      return (unit :: tail, rest)
    | none => .error (.badUnicodeEscape, 'u' :: a :: b :: c :: d :: e :: rest)
  | '\\' :: 'u' :: rest => .error (.badUnicodeEscape, 'u' :: rest)
  | '\\' :: e :: rest =>
    match escaped? e with
    | some c => do
      let (tail, rest) ← units start rest
      return (c.toNat :: tail, rest)
    | none => .error (.badEscape, '\\' :: e :: rest)
  | c :: rest =>
    if c.toNat < 0x20 then .error (.controlCharacter, c :: rest)
    else do
      let (tail, rest) ← units start rest
      return (c.toNat :: tail, rest)

/-- Whether a code unit is the first half of a surrogate pair. -/
def isHighSurrogate (unit : Nat) : Bool := 0xd800 ≤ unit && unit < 0xdc00

/-- Whether a code unit is the second half of a surrogate pair. -/
def isLowSurrogate (unit : Nat) : Bool := 0xdc00 ≤ unit && unit < 0xe000

/-- The character with this code; a lone half of a pair has none and becomes the replacement
character. -/
def charOfUnit (unit : Nat) : Char :=
  if isHighSurrogate unit || isLowSurrogate unit then '\ufffd' else Char.ofNat unit

/-- Joins surrogate pairs into the characters they stand for. -/
def joinPairs : List Nat → List Char
  | [] => []
  | [unit] => [charOfUnit unit]
  | high :: low :: rest =>
    if isHighSurrogate high && isLowSurrogate low then
      Char.ofNat (0x10000 + (high - 0xd800) * 0x400 + (low - 0xdc00)) :: joinPairs rest
    else charOfUnit high :: joinPairs (low :: rest)

/-- A string whose opening quote is the first character of the text. -/
def string (cs : List Char) : Except Fault (String × List Char) := do
  let (codes, rest) ← units cs cs.tail
  return (String.ofList (joinPairs codes), rest)

/-! ### Values -/

/-- Items with commas between them, each read in the same way, up to the closing bracket. -/
def sequence {α : Type} (closing : Char) (item : List Char → Except Fault (α × List Char)) :
    Nat → List Char → Except Fault (List α × List Char)
  | 0, cs => .error (.expectingComma, cs)
  | fuel + 1, cs => do
    let (first, rest) ← item cs
    match skipBlanks rest with
    | ',' :: rest =>
      let (others, rest) ← sequence closing item fuel (skipBlanks rest)
      return (first :: others, rest)
    | rest =>
      if rest.head? = some closing then return ([first], rest.tail)
      else .error (.expectingComma, rest)

/-- A field of an object: its name, a colon and its value. -/
def field (value : List Char → Except Fault (Json × List Char)) (cs : List Char) :
    Except Fault ((String × Json) × List Char) :=
  match cs with
  | '"' :: _ => do
    let (key, rest) ← string cs
    match skipBlanks rest with
    | ':' :: rest =>
      let (item, rest) ← value (skipBlanks rest)
      return ((key, item), rest)
    | rest => .error (.expectingColon, rest)
  | _ => .error (.expectingName, cs)

/-- A value that starts at the first character of the text. -/
def value : Nat → List Char → Except Fault (Json × List Char)
  | 0, cs => .error (.expectingValue, cs)
  | fuel + 1, cs =>
    match cs with
    | '"' :: _ => do
      let (s, rest) ← string cs
      return (.str s, rest)
    | '{' :: rest =>
      match skipBlanks rest with
      | '}' :: rest => .ok (.obj [], rest)
      | rest => do
        let (fields, rest) ← sequence '}' (field (value fuel)) fuel rest
        return (.obj (Entries.ofList fields), rest)
    | '[' :: rest =>
      match skipBlanks rest with
      | ']' :: rest => .ok (.arr [], rest)
      | rest => do
        let (items, rest) ← sequence ']' (value fuel) fuel rest
        return (.arr items, rest)
    | 'n' :: 'u' :: 'l' :: 'l' :: rest => .ok (.null, rest)
    | 't' :: 'r' :: 'u' :: 'e' :: rest => .ok (.bool true, rest)
    | 'f' :: 'a' :: 'l' :: 's' :: 'e' :: rest => .ok (.bool false, rest)
    | 'N' :: 'a' :: 'N' :: rest => .ok (.float .nan, rest)
    | 'I' :: 'n' :: 'f' :: 'i' :: 'n' :: 'i' :: 't' :: 'y' :: rest =>
      .ok (.float (.infinite false), rest)
    | '-' :: 'I' :: 'n' :: 'f' :: 'i' :: 'n' :: 'i' :: 't' :: 'y' :: rest =>
      .ok (.float (.infinite true), rest)
    | _ => number cs

/-- A whole text: one value with blanks around it. Every bracket and every item takes at least one
character, so the length bounds both the depth of the value and the number of items in a row. -/
def document (cs : List Char) : Except Fault Json := do
  let start := skipBlanks cs
  let (result, rest) ← value (cs.length + 1) start
  match skipBlanks rest with
  | [] => return result
  | rest => .error (.extraData, rest)

end Reader

/-- Reads a text as one JSON value. -/
def read? (text : String) : Except ReadError Json :=
  let cs := text.toList
  if cs.head? = some '\ufeff' then .error (.after .byteOrderMark []) else
  match Reader.document cs with
  | .ok result => .ok result
  | .error (cause, rest) => .error (.after cause (cs.take (cs.length - rest.length)))

end Json

end PfaScript
