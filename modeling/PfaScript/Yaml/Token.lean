import PfaScript.Yaml.Block
import PfaScript.Yaml.Quoted
import PfaScript.Yaml.Unquoted

/-!
# Tokens of YAML texts

`Yaml.tokens` splits a text into tokens. Blocks, which are made by indentation, get tokens for their
starts and ends. A key needs no mark before it, and what is a key shows only at its colon: until
then, a token at which a key may have started is remembered, and the mark is put before it later.
A key stands on one line and has no more than 1024 characters.
-/

namespace PfaScript

namespace Yaml

/-- A token of a YAML text. -/
inductive Token where
  /-- The directive that tells the version; only its first number counts. -/
  | version (major : Nat)
  /-- The directive that gives a short form to the beginning of tags. -/
  | tagHandle (handle start : String)
  /-- Any other directive. -/
  | directive
  | documentStart
  | documentEnd
  | blockSequence
  | blockMapping
  | blockEnd
  | flowSequence
  | flowSequenceEnd
  | flowMapping
  | flowMappingEnd
  /-- The dash before an item. -/
  | item
  | comma
  /-- The mark before a key. -/
  | key
  /-- The mark before a value. -/
  | value
  | alias (name : String)
  | anchor (name : String)
  /-- A tag, which has a short form in front unless it is written in full. -/
  | tag (handle : Option String) (suffix : String)
  /-- A scalar, and whether it is written without quotes and not as a block. -/
  | scalar (text : String) (isPlain : Bool)
  /-- A place where no token can be read. -/
  | problem (problem : Problem)
deriving DecidableEq, Repr

/-! ### Names, tags and directives -/

/-- Whether a character may occur in the name of an anchor. -/
def isNameChar (c : Char) : Bool :=
  c.isAlphanum || c = '-' || c = '_'

/-- Whether a character may occur in a tag; a percent sign begins an escape. -/
def isTagChar (c : Char) : Bool :=
  c.isAlphanum || "-;/?:@&=+$,_.!~*'()[]%".toList.contains c

namespace Cursor

/-- Whether a space, a line end or the end of the text comes next. -/
def endsTag (cursor : Cursor) : Bool :=
  cursor.endsOr (fun c => c = ' ' || isBreak c) 0

/-- The name of an anchor or an alias, and the place after it. -/
def anchorName (cursor : Cursor) : Except Problem (String × Cursor) :=
  let name := cursor.rest.takeWhile isNameChar
  let cursor := cursor.skip name.length
  let isEnd (c : Char) : Bool := isSpace c || isBreak c || "?:,]\x7d%@`".toList.contains c
  if name.isEmpty || !cursor.endsOr isEnd 0 then .error .malformed
  else .ok (String.ofList name, cursor)

/-- The short form at the start of a tag, from one exclamation mark to the next. -/
def tagHandle (cursor : Cursor) : Except Problem (String × Cursor) :=
  match cursor.rest with
  | '!' :: ' ' :: _ => .ok ("!", cursor.next)
  | '!' :: rest =>
    let name := rest.takeWhile isNameChar
    if (rest.drop name.length).head? = some '!' then
      .ok (String.ofList ('!' :: name ++ ['!']), cursor.skip (name.length + 2))
    else .error .malformed
  | _ => .error .malformed

/-- The bytes that escapes write in a tag, and the place after them. -/
def tagBytes : Nat → Cursor → Except Problem (List UInt8 × Cursor)
  | 0, _ => .error .malformed
  | fuel + 1, cursor =>
    match cursor.rest with
    | '%' :: a :: b :: _ =>
      match Json.Reader.hexValue? a, Json.Reader.hexValue? b with
      | some high, some low => do
        let (more, cursor) ← tagBytes fuel (cursor.skip 3)
        return (UInt8.ofNat (16 * high + low) :: more, cursor)
      | _, _ => .error .malformed
    | '%' :: _ => .error .malformed
    | _ => .ok ([], cursor)

/-- The characters of a tag, and the place after them. -/
def tagText : Nat → Cursor → Except Problem (String × Cursor)
  | 0, _ => .error .malformed
  | fuel + 1, cursor =>
    match cursor.rest with
    | [] => .ok ("", cursor)
    | c :: _ =>
      if c = '%' then do
        let (bytes, cursor) ← tagBytes (cursor.rest.length + 1) cursor
        match String.fromUTF8? ⟨bytes.toArray⟩ with
        | some text =>
          let (more, cursor) ← tagText fuel cursor
          return (text ++ more, cursor)
        | none => .error .malformed
      else if isTagChar c then do
        let (more, cursor) ← tagText fuel cursor.next
        return (String.singleton c ++ more, cursor)
      else .ok ("", cursor)

/-- The characters of a tag, at least one, and the place after them. -/
def tagSuffix (cursor : Cursor) : Except Problem (String × Cursor) := do
  let (text, after) ← tagText (cursor.rest.length + 1) cursor
  if after.index = cursor.index then .error .malformed else return (text, after)

/-- A tag, and the place after it. -/
def tag (cursor : Cursor) : Except Problem (Token × Cursor) := do
  let (token, cursor) ←
    if cursor.peek? 1 = some '<' then do
      let (suffix, cursor) ← (cursor.skip 2).tagSuffix
      if cursor.peek? 0 = some '>' then pure (Token.tag none suffix, cursor.next)
      else .error .malformed
    else if cursor.endsWord 1 then pure (.tag none "!", cursor.next)
    else if (cursor.rest.tail.takeWhile fun c => c ≠ ' ' && !isBreak c).contains '!' then do
      let (handle, cursor) ← cursor.tagHandle
      let (suffix, cursor) ← cursor.tagSuffix
      pure (.tag (some handle) suffix, cursor)
    else do
      let (suffix, cursor) ← cursor.next.tagSuffix
      pure (.tag (some "!") suffix, cursor)
  if cursor.endsTag then return (token, cursor) else .error .malformed

/-- A number in a directive, and the place after it. -/
def number (cursor : Cursor) : Except Problem (Nat × Cursor) :=
  let digits := cursor.rest.takeWhile Char.isDigit
  if digits.isEmpty then .error .malformed
  else .ok (digits.foldl (fun n c => 10 * n + (c.toNat - '0'.toNat)) 0, cursor.skip digits.length)

/-- The content of a directive after its name, and the place after it. -/
def directiveValue (name : List Char) (cursor : Cursor) : Except Problem (Token × Cursor) := do
  let ahead := cursor.skipWhile (· = ' ')
  if name = "YAML".toList then
    let (major, cursor) ← ahead.number
    if cursor.peek? 0 ≠ some '.' then .error .malformed
    let (_, cursor) ← cursor.next.number
    if cursor.endsTag then return (.version major, cursor) else .error .malformed
  else if name = "TAG".toList then
    let (handle, cursor) ← ahead.tagHandle
    if cursor.peek? 0 ≠ some ' ' then .error .malformed
    let (start, cursor) ← (cursor.skipWhile (· = ' ')).tagSuffix
    if cursor.endsTag then return (.tagHandle handle start, cursor) else .error .malformed
  else return (.directive, cursor.skipWhile (!isBreak ·))

/-- A directive after its percent sign, and the place at the start of the next line. -/
def directive (cursor : Cursor) : Except Problem (Token × Cursor) := do
  let name := cursor.rest.takeWhile isNameChar
  let cursor := cursor.skip name.length
  if name.isEmpty || !cursor.endsTag then .error .malformed
  let (token, cursor) ← cursor.directiveValue name
  match cursor.endOfLine? with
  | some cursor => return (token, cursor)
  | none => .error .malformed

end Cursor

/-! ### Possible keys -/

/-- A token at which a key may have started. -/
structure PossibleKey where
  /-- The number of brackets around it. -/
  depth : Nat
  /-- The number of tokens before it. -/
  number : Nat
  /-- Whether nothing else than a key can stand there. -/
  isRequired : Bool
  index : Nat
  line : Nat
  column : Nat
deriving Repr

/-- The greatest length of a key that has no mark. -/
def longestKey : Nat := 1024

/-- What has been read of a text. -/
structure Scan where
  cursor : Cursor
  /-- The number of brackets around the place. -/
  depth : Nat
  /-- The tokens, from the last to the first. -/
  tokens : List Token
  /-- The indentation of the innermost block. -/
  indent : Int
  /-- The indentations of the blocks around it. -/
  outer : List Int
  /-- Whether a key may start at the next token. -/
  allowsKey : Bool
  /-- The places where a key may have started. -/
  keys : List PossibleKey
deriving Repr

namespace Scan

/-- The scan with one more token. -/
def push (token : Token) (scan : Scan) : Scan :=
  { scan with tokens := token :: scan.tokens }

/-- The scan with a token inserted after so many tokens. -/
def insert (number : Nat) (token : Token) (scan : Scan) : Scan :=
  let later := scan.tokens.length - number
  { scan with tokens := scan.tokens.take later ++ token :: scan.tokens.drop later }

/-- The scan without the possible keys that satisfy a condition; required ones cannot be given up.
-/
def giveUpKeys (p : PossibleKey → Bool) (scan : Scan) : Except Problem Scan :=
  if scan.keys.any fun key => p key && key.isRequired then .error .malformed
  else .ok { scan with keys := scan.keys.filter (!p ·) }

/-- Whether a possible key would be too long or span lines. -/
def isStale (scan : Scan) (key : PossibleKey) : Bool :=
  key.line ≠ scan.cursor.line || longestKey < scan.cursor.index - key.index

/-- The scan without the possible keys that would be too long or span lines. -/
def giveUpStaleKeys (scan : Scan) : Except Problem Scan :=
  scan.giveUpKeys scan.isStale

/-- The scan without the possible key inside the same brackets. -/
def giveUpKey (scan : Scan) : Except Problem Scan :=
  scan.giveUpKeys (·.depth = scan.depth)

/-- The scan in which the next token may start a key, if it is allowed. -/
def rememberKey (scan : Scan) : Except Problem Scan := do
  if scan.allowsKey then
    let scan ← scan.giveUpKey
    let key : PossibleKey := {
      depth := scan.depth
      number := scan.tokens.length
      isRequired := scan.depth = 0 && scan.indent = scan.cursor.column
      index := scan.cursor.index
      line := scan.cursor.line
      column := scan.cursor.column }
    return { scan with keys := key :: scan.keys }
  else return scan

/-! ### Blocks -/

/-- Ends the blocks that are indented more than a column. -/
def unwindTo (column : Int) : List Int → Scan → Scan
  | [], scan => scan
  | outer :: others, scan =>
    if column < scan.indent then
      unwindTo column others ({ scan with indent := outer, outer := others }.push .blockEnd)
    else scan

/-- Ends the blocks that are indented more than a column, unless the place is inside brackets. -/
def unwind (column : Int) (scan : Scan) : Scan :=
  if scan.depth = 0 then unwindTo column scan.outer scan else scan

/-- Whether something in a column starts a new block. -/
def opensBlock (column : Nat) (scan : Scan) : Bool :=
  scan.depth = 0 && scan.indent < column

/-- The scan inside a new block. -/
def inBlock (column : Nat) (scan : Scan) : Scan :=
  { scan with indent := column, outer := scan.indent :: scan.outer }

/-- A new block at the place, if something in its column starts one. -/
def openBlock (token : Token) (scan : Scan) : Scan :=
  let column := scan.cursor.column
  if scan.opensBlock column then (scan.inBlock column).push token else scan

/-! ### Tokens -/

/-- The scan at the next token, after spaces, comments and line ends. -/
def toNextToken : Nat → Scan → Scan
  | 0, scan => scan
  | fuel + 1, scan =>
    let cursor := scan.cursor.skipWhile (· = ' ')
    let cursor := if cursor.peek? 0 = some '#' then cursor.skipWhile (!isBreak ·) else cursor
    match cursor.lineBreak? with
    | some (_, cursor) =>
      toNextToken fuel { scan with cursor, allowsKey := scan.allowsKey || scan.depth = 0 }
    | none => { scan with cursor }

/-- Takes a token of the given length. -/
def take (length : Nat) (token : Token) (scan : Scan) : Scan :=
  { scan with cursor := scan.cursor.skip length }.push token

/-- Takes the mark of a document's start or end, or anything else that ends all blocks. -/
def endBlocks (scan : Scan) : Except Problem Scan := do
  let scan ← (scan.unwind (-1)).giveUpKey
  return { scan with allowsKey := false }

/-- Takes an opening bracket, at which a key may start. -/
def openBracket (token : Token) (scan : Scan) : Except Problem Scan := do
  let scan ← scan.rememberKey
  return { scan with depth := scan.depth + 1, allowsKey := true }.take 1 token

/-- Takes a closing bracket. -/
def closeBracket (token : Token) (scan : Scan) : Except Problem Scan := do
  let scan ← scan.giveUpKey
  if scan.depth = 0 then .error .malformed
  else return { scan with depth := scan.depth - 1, allowsKey := false }.take 1 token

/-- Takes a comma. -/
def takeComma (scan : Scan) : Except Problem Scan := do
  let scan ← scan.giveUpKey
  return { scan with allowsKey := true }.take 1 .comma

/-- Takes the dash before an item, which may start a list. -/
def takeItem (scan : Scan) : Except Problem Scan := do
  if scan.depth = 0 && !scan.allowsKey then .error .malformed
  let scan ← (scan.openBlock .blockSequence).giveUpKey
  return { scan with allowsKey := true }.take 1 .item

/-- Takes the mark before a key, which may start a mapping. -/
def takeKey (scan : Scan) : Except Problem Scan := do
  if scan.depth = 0 && !scan.allowsKey then .error .malformed
  let scan ← (scan.openBlock .blockMapping).giveUpKey
  return { scan with allowsKey := scan.depth = 0 }.take 1 .key

/-- Takes the colon before a value. If a key may have started, it is one. -/
def takeValue (scan : Scan) : Except Problem Scan := do
  match scan.keys.find? (·.depth = scan.depth) with
  | some key =>
    let scan := { scan with keys := scan.keys.filter (·.depth ≠ scan.depth) }
    let scan := scan.insert key.number .key
    let scan := if scan.opensBlock key.column then
        (scan.inBlock key.column).insert key.number .blockMapping
      else scan
    return { scan with allowsKey := false }.take 1 .value
  | none =>
    if scan.depth = 0 && !scan.allowsKey then .error .malformed
    let scan := scan.openBlock .blockMapping
    return { scan with allowsKey := scan.depth = 0 }.take 1 .value

/-- Takes a token that may be a key or the start of one. -/
def takeNode (read : Cursor → Except Problem (Token × Cursor)) (scan : Scan) :
    Except Problem Scan := do
  let scan ← scan.rememberKey
  let (token, cursor) ← read scan.cursor
  return { scan with cursor, allowsKey := false }.push token

/-- Takes a scalar without quotes. If a line ends behind it, a key may follow. -/
def takeUnquoted (scan : Scan) : Except Problem Scan := do
  let scan ← scan.rememberKey
  let (text, cursor, isCrossed) := Unquoted.body (0 < scan.depth) (scan.indent + 1)
    (scan.cursor.rest.length + 1) scan.cursor
  return { scan with cursor, allowsKey := isCrossed }.push (.scalar (String.ofList text) true)

/-- Takes a block scalar, after which a key may follow. -/
def takeBlock (isFolded : Bool) (scan : Scan) : Except Problem Scan := do
  let scan ← scan.giveUpKey
  let (text, cursor) ← scan.cursor.next.block isFolded scan.indent
  return { scan with cursor, allowsKey := true }.push (.scalar text false)

/-- Takes the token that starts with a character, which comes next. -/
def takeToken (c : Char) (scan : Scan) : Except Problem Scan :=
  let cursor := scan.cursor
  let isLineStart := cursor.column = 0
  let inBrackets := 0 < scan.depth
  if c = '%' && isLineStart then do
    let scan ← scan.endBlocks
    let (token, cursor) ← cursor.next.directive
    return { scan with cursor }.push token
  else if isLineStart && cursor.seesDocumentMark then do
    let scan ← scan.endBlocks
    return scan.take 3 (if c = '-' then .documentStart else .documentEnd)
  else if c = '[' then scan.openBracket .flowSequence
  else if c = '{' then scan.openBracket .flowMapping
  else if c = ']' then scan.closeBracket .flowSequenceEnd
  else if c = '}' then scan.closeBracket .flowMappingEnd
  else if c = ',' then scan.takeComma
  else if c = '-' && cursor.endsWord 1 then scan.takeItem
  else if c = '?' && (inBrackets || cursor.endsWord 1) then scan.takeKey
  else if c = ':' && (inBrackets || cursor.endsWord 1) then scan.takeValue
  else if c = '*' then scan.takeNode fun cursor => do
    let (name, cursor) ← cursor.next.anchorName
    return (.alias name, cursor)
  else if c = '&' then scan.takeNode fun cursor => do
    let (name, cursor) ← cursor.next.anchorName
    return (.anchor name, cursor)
  else if c = '!' then scan.takeNode Cursor.tag
  else if c = '|' && !inBrackets then scan.takeBlock false
  else if c = '>' && !inBrackets then scan.takeBlock true
  else if c = '\'' || c = '"' then scan.takeNode fun cursor => do
    let (text, cursor) ← cursor.quoted
    return (.scalar text false, cursor)
  else if Unquoted.isStart inBrackets cursor then scan.takeUnquoted
  else .error .malformed

/-- Takes the next token with those before it that end blocks; or the last ones, and then no place
is left. -/
def step (scan : Scan) : Except Problem (Scan × Bool) := do
  let scan := scan.toNextToken (scan.cursor.rest.length + 1)
  let scan ← scan.giveUpStaleKeys
  let scan := scan.unwind scan.cursor.column
  match scan.cursor.rest with
  | [] => return (← scan.endBlocks, true)
  | c :: _ => return (← scan.takeToken c, false)

/-- The tokens that are certain. From the first place on where a key may have started they are not,
since the mark of the key would have to be inserted there. -/
def certain (scan : Scan) : List Token :=
  let keys := scan.keys.filter (!scan.isStale ·)
  let number := keys.foldl (fun number key => min number key.number) scan.tokens.length
  scan.tokens.reverse.take number

/-- The tokens of the rest of a text. At a problem there are no more, and of those before it only
the certain ones are known. -/
def all : Nat → Scan → List Token
  | 0, scan => scan.tokens.reverse
  | fuel + 1, scan =>
    match scan.step with
    | .error problem => scan.certain ++ [.problem problem]
    | .ok (scan, true) => scan.tokens.reverse
    | .ok (scan, false) => all fuel scan

end Scan

/-- The tokens of a text, after its byte order mark if it has one. -/
def tokens (cs : List Char) : List Token :=
  let start : Cursor := ⟨cs, 0, 0, 0⟩
  let start := if cs.head? = some '\ufeff' then start.next else start
  Scan.all (cs.length + 2) ⟨start, 0, [], -1, [], true, []⟩

end Yaml

end PfaScript
