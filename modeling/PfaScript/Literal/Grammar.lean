import PfaScript.Literal.Expr
import PfaScript.Literal.Token

/-!
# The grammar of expressions

`Literal.parse?` reads a text as an expression. All expressions are recognised, also those that
cannot be literals, such as calls, comparisons and functions: a text that is no expression at all is
another case than an expression that is no literal. Of the latter only `Expr.other` is kept.

Reading goes from left to right over a list of tokens and never has to go back, except where a
target of a loop is read, because only its end tells whether it is a place or a pattern.
-/

namespace PfaScript

namespace Literal

/-- A reader takes tokens from the front of a list, or fails. -/
abbrev Reading := StateT (List Token) Option

namespace Reading

/-- Whether the next token is one of the marks. -/
def seesMark (marks : List String) : Reading Bool := do
  match ← get with
  | .mark mark :: _ => return marks.contains mark
  | _ => return false

/-- Whether the next token is one of the words. -/
def seesWord (words : List String) : Reading Bool := do
  match ← get with
  | .word word :: _ => return words.contains word
  | _ => return false

/-- Takes one of the marks, if it is next. -/
def takeMark? (marks : List String) : Reading (Option String) := do
  match ← get with
  | .mark mark :: rest =>
    if marks.contains mark then
      set rest
      return some mark
    else return none
  | _ => return none

/-- Takes a mark, if it is next, and tells whether it was. -/
def skipMark (mark : String) : Reading Bool := do
  return (← takeMark? [mark]).isSome

/-- Takes a mark where it may stand, if it is next, and tells whether it was. -/
def skipMarkIf (isAllowed : Bool) (mark : String) : Reading Bool :=
  if isAllowed then skipMark mark else return false

/-- Takes a word, if it is next, and tells whether it was. -/
def skipWord (word : String) : Reading Bool := do
  match ← get with
  | .word found :: rest =>
    if found = word then
      set rest
      return true
    else return false
  | _ => return false

/-- Takes a mark that has to be next. -/
def expectMark (mark : String) : Reading Unit := do
  if ← skipMark mark then return () else failure

/-- Takes a word that has to be next. -/
def expectWord (word : String) : Reading Unit := do
  if ← skipWord word then return () else failure

/-- Takes a name that has to be next. -/
def expectName : Reading String := do
  match ← get with
  | .name name :: rest =>
    set rest
    return name
  | _ => failure

/-- Takes a name together with the mark that follows it, if they are next. -/
def skipNameAnd (mark : String) : Reading Bool := do
  match ← get with
  | .name _ :: .mark found :: rest =>
    if found = mark then
      set rest
      return true
    else return false
  | _ => return false

/-- Takes the sign of a comparison, if it is next. -/
def skipComparison : Reading Bool := do
  match ← get with
  | .mark mark :: rest =>
    if ["==", "!=", "<", "<=", ">", ">="].contains mark then
      set rest
      return true
    else return false
  | .word "in" :: rest =>
    set rest
    return true
  | .word "not" :: .word "in" :: rest =>
    set rest
    return true
  | .word "is" :: .word "not" :: rest =>
    set rest
    return true
  | .word "is" :: rest =>
    set rest
    return true
  | _ => return false

/-- Takes the quoted texts that are next. -/
def takeQuoted : Reading (List Token) := do
  let isQuoted : Token → Bool
    | .text _ => true
    | .bytes _ => true
    | .template _ _ => true
    | _ => false
  let tokens ← get
  set (tokens.dropWhile isQuoted)
  return tokens.takeWhile isQuoted

end Reading

open Reading

/-- The signs between operands, from those that bind least to those that bind most. -/
def operatorLevels : List (List String) :=
  [["|"], ["^"], ["&"], ["<<", ">>"], ["+", "-"], ["*", "/", "//", "%", "@"]]

/-- Two operands with a sign between them. -/
def combined (sign : String) (left right : Expr) : Expr :=
  if sign = "+" then .sum false left right
  else if sign = "-" then .sum true left right
  else .other

/-- An operand after its sign. -/
def prefixed (sign : String) (operand : Expr) : Expr :=
  if sign = "+" then .signed false operand
  else if sign = "-" then .signed true operand
  else .other

/-- Joins quoted texts, which are either all texts or all bytes. Texts with expressions in braces
are no literals. -/
def joinQuoted? : List Token → Option Expr
  | [] => none
  | [.text s] => some (.constant (.str s))
  | [.bytes b] => some (.constant (.bytes b))
  | [.template _ _] => some .other
  | first :: rest => do
    match first, ← joinQuoted? rest with
    | .text s, .constant (.str t) => return .constant (.str (s ++ t))
    | .bytes b, .constant (.bytes t) => return .constant (.bytes (b ++ t))
    | .text _, .other => return .other
    | .template _ _, .constant (.str _) => return .other
    | .template _ _, .other => return .other
    | _, _ => none

/-- What counts of the parameters of a function that have been read. Parameters with a default value
do not stand before those that have none, unless these come after a star. -/
structure Parameters where
  /-- Whether there is a parameter. -/
  isPreceded : Bool
  /-- Whether the last one has a default value. -/
  hasDefault : Bool
  /-- Whether there is the slash that ends the parameters without names. -/
  isSlashed : Bool

/-- The name of a parameter after two stars, and the colon. -/
def lastParameter : Reading Unit := do
  let _ ← expectName
  let _ ← skipMark ","
  expectMark ":"

mutual

/-- An expression: a function, a choice by a condition, or an operation. -/
def expression : Nat → Reading Expr
  | 0 => failure
  | fuel + 1 => do
    if ← skipWord "lambda" then
      parameters fuel ⟨false, false, false⟩
      let _ ← expression fuel
      return .other
    else
      let value ← disjunction fuel
      if ← skipWord "if" then
        let _ ← disjunction fuel
        expectWord "else"
        let _ ← expression fuel
        return .other
      else return value

/-- The parameters of a function up to its colon. -/
def parameters : Nat → Parameters → Reading Unit
  | 0, _ => failure
  | fuel + 1, before => do
    if ← skipMark ":" then return ()
    else if ← skipMark "*" then
      if ← skipMark "," then namedParameters fuel true
      else
        let _ ← expectName
        if ← skipMark ":" then return ()
        else
          expectMark ","
          namedParameters fuel false
    else if ← skipMark "**" then lastParameter
    else if ← skipMarkIf (before.isPreceded && !before.isSlashed) "/" then
      if ← skipMark ":" then return ()
      else
        expectMark ","
        parameters fuel { before with isSlashed := true }
    else
      let _ ← expectName
      let isDefault ← skipMark "="
      if isDefault then
        let _ ← expression fuel
      if before.hasDefault && !isDefault then failure
      else if ← skipMark ":" then return ()
      else
        expectMark ","
        parameters fuel { before with isPreceded := true, hasDefault := isDefault }

/-- The parameters after a star, of which there is at least one if it is needed. -/
def namedParameters : Nat → Bool → Reading Unit
  | 0, _ => failure
  | fuel + 1, isNeeded => do
    if ← skipMarkIf (!isNeeded) ":" then return ()
    else if ← skipMarkIf (!isNeeded) "**" then lastParameter
    else
      let _ ← expectName
      if ← skipMark "=" then
        let _ ← expression fuel
      if ← skipMark ":" then return ()
      else
        expectMark ","
        namedParameters fuel false

/-- Alternatives. -/
def disjunction : Nat → Reading Expr
  | 0 => failure
  | fuel + 1 => do
    let first ← conjunction fuel
    if ← skipWord "or" then
      let _ ← disjunction fuel
      return .other
    else return first

/-- Conditions that hold together. -/
def conjunction : Nat → Reading Expr
  | 0 => failure
  | fuel + 1 => do
    let first ← inversion fuel
    if ← skipWord "and" then
      let _ ← conjunction fuel
      return .other
    else return first

/-- A condition or its opposite. -/
def inversion : Nat → Reading Expr
  | 0 => failure
  | fuel + 1 => do
    if ← skipWord "not" then
      let _ ← inversion fuel
      return .other
    else
      let first ← operation fuel operatorLevels
      comparisons fuel first

/-- The comparisons after an operand. -/
def comparisons : Nat → Expr → Reading Expr
  | 0, _ => failure
  | fuel + 1, left => do
    if ← skipComparison then
      let _ ← operation fuel operatorLevels
      comparisons fuel .other
    else return left

/-- Operands with signs of the given levels between them. -/
def operation : Nat → List (List String) → Reading Expr
  | 0, _ => failure
  | fuel + 1, [] => signed fuel
  | fuel + 1, signs :: tighter => do
    let first ← operation fuel tighter
    operands fuel signs tighter first

/-- The further operands after those before. -/
def operands : Nat → List String → List (List String) → Expr → Reading Expr
  | 0, _, _, _ => failure
  | fuel + 1, signs, tighter, left => do
    match ← takeMark? signs with
    | none => return left
    | some sign =>
      let right ← operation fuel tighter
      operands fuel signs tighter (combined sign left right)

/-- An operand with any number of signs before it. -/
def signed : Nat → Reading Expr
  | 0 => failure
  | fuel + 1 => do
    match ← takeMark? ["+", "-", "~"] with
    | some sign => return prefixed sign (← signed fuel)
    | none =>
      let base ← awaited fuel
      if ← skipMark "**" then
        let _ ← signed fuel
        return .other
      else return base

/-- A value that may have to be waited for. -/
def awaited : Nat → Reading Expr
  | 0 => failure
  | fuel + 1 => do
    if ← skipWord "await" then
      let _ ← primary fuel
      return .other
    else primary fuel

/-- A value with its calls, members and items. -/
def primary : Nat → Reading Expr
  | 0 => failure
  | fuel + 1 => do
    let value ← atom fuel
    trailers fuel value

/-- The calls, members and items after a value. -/
def trailers : Nat → Expr → Reading Expr
  | 0, _ => failure
  | fuel + 1, value => do
    match ← takeMark? [".", "(", "["] with
    | some "." =>
      let _ ← expectName
      trailers fuel .access
    | some "(" =>
      if ← skipMark ")" then trailers fuel (.call value)
      else
        firstArgument fuel
        trailers fuel .other
    | some _ =>
      subscripts fuel
      trailers fuel .access
    | none => return value

/-- The arguments of a call up to the closing bracket. A single one may be a loop. -/
def firstArgument : Nat → Reading Unit
  | 0 => failure
  | fuel + 1 => do
    if (← seesMark ["*", "**"]) then arguments fuel
    else if ← skipNameAnd "=" then
      let _ ← expression fuel
      nextArgument fuel true false
    else
      let _ ← named fuel
      if ← seesWord ["for", "async"] then
        loops fuel
        expectMark ")"
      else nextArgument fuel false false

/-- The arguments of a call from one on that may be unpacked. -/
def arguments : Nat → Reading Unit
  | 0 => failure
  | fuel + 1 => moreArguments fuel false false

/-- The end of the arguments of a call, or further ones after a comma. -/
def nextArgument : Nat → Bool → Bool → Reading Unit
  | 0, _, _ => failure
  | fuel + 1, isNamed, isUnpacked => do
    if ← skipMark ")" then return ()
    else
      expectMark ","
      if ← skipMark ")" then return () else moreArguments fuel isNamed isUnpacked

/-- One argument of a call and what follows it. After a named one, all have to be named or unpacked;
after an unpacked mapping, lists are no longer unpacked. -/
def moreArguments : Nat → Bool → Bool → Reading Unit
  | 0, _, _ => failure
  | fuel + 1, isNamed, isUnpacked => do
    if ← skipMark "**" then
      let _ ← expression fuel
      nextArgument fuel true true
    else if ← skipMark "*" then
      if isUnpacked then failure
      else
        let _ ← expression fuel
        nextArgument fuel isNamed isUnpacked
    else if ← skipNameAnd "=" then
      let _ ← expression fuel
      nextArgument fuel true isUnpacked
    else if isNamed then failure
    else
      let _ ← named fuel
      nextArgument fuel isNamed isUnpacked

/-- What stands in square brackets after a value, up to the closing bracket. -/
def subscripts : Nat → Reading Unit
  | 0 => failure
  | fuel + 1 => do
    if ← skipMark "*" then
      let _ ← expression fuel
    else subscript fuel
    if ← skipMark "]" then return ()
    else
      expectMark ","
      if ← skipMark "]" then return () else subscripts fuel

/-- An index or a slice. -/
def subscript : Nat → Reading Unit
  | 0 => failure
  | fuel + 1 => do
    if ← skipNameAnd ":=" then
      let _ ← expression fuel
    else if ← skipMark ":" then
      bound fuel
      if ← skipMark ":" then bound fuel
    else
      let _ ← expression fuel
      if ← skipMark ":" then
        bound fuel
        if ← skipMark ":" then bound fuel

/-- An end of a slice, which may be missing. -/
def bound : Nat → Reading Unit
  | 0 => failure
  | fuel + 1 => do
    if ← seesMark [":", ",", "]"] then return ()
    else
      let _ ← expression fuel

/-- An expression that may be given a name. -/
def named : Nat → Reading Expr
  | 0 => failure
  | fuel + 1 => do
    if ← skipNameAnd ":=" then
      let _ ← expression fuel
      return .other
    else expression fuel

/-- A number, a text, a word or something in brackets. -/
def atom : Nat → Reading Expr
  | 0 => failure
  | fuel + 1 => do
    let tokens ← get
    match tokens with
    | .number value :: rest =>
      set rest
      return .constant value
    | .ellipsis :: rest =>
      set rest
      return .constant .ellipsis
    | .name name :: rest =>
      set rest
      return .name name
    | .word "True" :: rest =>
      set rest
      return .constant (.bool true)
    | .word "False" :: rest =>
      set rest
      return .constant (.bool false)
    | .word "None" :: rest =>
      set rest
      return .constant .null
    | .mark "(" :: rest =>
      set rest
      grouped fuel
    | .mark "[" :: rest =>
      set rest
      if ← skipMark "]" then return .list []
      else
        let (isItem, first) ← item fuel
        if isItem && (← seesWord ["for", "async"]) then
          loops fuel
          expectMark "]"
          return .other
        else return .list (first :: (← items fuel "]"))
    | .mark "\x7b" :: rest =>
      set rest
      braced fuel
    | _ =>
      let quoted ← takeQuoted
      for token in quoted do
        match token with
        | .template isRaw body => template? fuel isRaw body
        | _ => pure ()
      match joinQuoted? quoted with
      | some expr => return expr
      | none => failure

/-- What stands in round brackets, up to the closing one. -/
def grouped : Nat → Reading Expr
  | 0 => failure
  | fuel + 1 => do
    if ← skipMark ")" then return .tuple []
    else if ← skipWord "yield" then
      if ← skipWord "from" then
        let _ ← expression fuel
        expectMark ")"
      else if ← skipMark ")" then pure ()
      else yielded fuel
      return .other
    else
      let (isItem, first) ← item fuel
      if ← skipMarkIf isItem ")" then return first
      else if isItem && (← seesWord ["for", "async"]) then
        loops fuel
        expectMark ")"
        return .other
      else if ← seesMark [")"] then failure
      else return .tuple (first :: (← items fuel ")"))

/-- The values that are handed out, up to the closing bracket. -/
def yielded : Nat → Reading Unit
  | 0 => failure
  | fuel + 1 => do
    if ← skipMark "*" then
      let _ ← operation fuel operatorLevels
    else
      let _ ← expression fuel
    if ← skipMark ")" then return ()
    else
      expectMark ","
      if ← skipMark ")" then return () else yielded fuel

/-- An item, and whether it stands for itself and is not unpacked. -/
def item : Nat → Reading (Bool × Expr)
  | 0 => failure
  | fuel + 1 => do
    if ← skipMark "*" then
      let _ ← operation fuel operatorLevels
      return (false, .other)
    else return (true, ← named fuel)

/-- The items after the first one, up to the closing bracket. -/
def items : Nat → String → Reading (List Expr)
  | 0, _ => failure
  | fuel + 1, close => do
    if ← skipMark close then return []
    else
      expectMark ","
      if ← skipMark close then return []
      else
        let (_, next) ← item fuel
        return next :: (← items fuel close)

/-- A set or a mapping after its opening brace. -/
def braced : Nat → Reading Expr
  | 0 => failure
  | fuel + 1 => do
    if ← skipMark "\x7d" then return .map []
    else if ← seesMark ["**"] then return .map (← entries fuel)
    else if ← seesMark ["*"] then
      let (_, first) ← item fuel
      return .set (first :: (← items fuel "\x7d"))
    else
      let isNamed ← skipNameAnd ":="
      let first ← expression fuel
      let first := if isNamed then .other else first
      if ← skipMarkIf (!isNamed) ":" then
        let value ← expression fuel
        if ← seesWord ["for", "async"] then
          loops fuel
          expectMark "\x7d"
          return .other
        else return .map ((first, value) :: (← nextEntry fuel))
      else if ← seesWord ["for", "async"] then
        loops fuel
        expectMark "\x7d"
        return .other
      else return .set (first :: (← items fuel "\x7d"))

/-- The entries of a mapping, at least one, up to the closing brace. -/
def entries : Nat → Reading (List (Expr × Expr))
  | 0 => failure
  | fuel + 1 => do
    if ← skipMark "**" then
      let _ ← operation fuel operatorLevels
      return (.other, .other) :: (← nextEntry fuel)
    else
      let key ← expression fuel
      expectMark ":"
      let value ← expression fuel
      return (key, value) :: (← nextEntry fuel)

/-- The end of a mapping, or further entries after a comma. -/
def nextEntry : Nat → Reading (List (Expr × Expr))
  | 0 => failure
  | fuel + 1 => do
    if ← skipMark "\x7d" then return []
    else
      expectMark ","
      if ← skipMark "\x7d" then return [] else entries fuel

/-- The loops that make items, with their conditions. -/
def loops : Nat → Reading Unit
  | 0 => failure
  | fuel + 1 => do
    let _ ← skipWord "async"
    expectWord "for"
    targets fuel
    expectWord "in"
    let _ ← disjunction fuel
    conditions fuel
    if ← seesWord ["for", "async"] then loops fuel

/-- The conditions of a loop. -/
def conditions : Nat → Reading Unit
  | 0 => failure
  | fuel + 1 => do
    if ← skipWord "if" then
      let _ ← disjunction fuel
      conditions fuel

/-- The targets of a loop, with commas between them. -/
def targets : Nat → Reading Unit
  | 0 => failure
  | fuel + 1 => do
    target fuel
    if ← skipMark "," then
      if ← seesWord ["in"] then return () else targets fuel

/-- A target, which may take the remaining items. -/
def target : Nat → Reading Unit
  | 0 => failure
  | fuel + 1 => do
    if ← skipMark "*" then
      if ← seesMark ["*"] then failure else target fuel
    else place fuel

/-- A member, an item, a name or a pattern of targets. -/
def place : Nat → Reading Unit
  | 0 => failure
  | fuel + 1 => do
    let tokens ← get
    match (primary fuel).run tokens with
    | some (.access, rest) => set rest
    | _ =>
      if ← skipMark "(" then
        if ← skipMark ")" then return ()
        else
          let isUnpacked ← seesMark ["*"]
          target fuel
          if isUnpacked && (← seesMark [")"]) then failure else nextTarget fuel ")"
      else if ← skipMark "[" then
        if ← skipMark "]" then return ()
        else
          target fuel
          nextTarget fuel "]"
      else
        let _ ← expectName

/-- The end of a pattern, or further targets after a comma. -/
def nextTarget : Nat → String → Reading Unit
  | 0, _ => failure
  | fuel + 1, close => do
    if ← skipMark close then return ()
    else
      expectMark ","
      if ← skipMark close then return ()
      else
        target fuel
        nextTarget fuel close

/-- Checks a text with expressions in braces. -/
def template? : Nat → Bool → List Char → Reading Unit
  | 0, _, _ => failure
  | fuel + 1, isRaw, body =>
    match templateParts? fuel isRaw 0 body with
    | some [] => return ()
    | _ => failure

/-- The rest after the texts and the expressions of a template, or of the format of one of its
expressions. Formats may have expressions with formats, and no deeper ones. -/
def templateParts? : Nat → Bool → Nat → List Char → Option (List Char)
  | 0, _, _, _ => none
  | fuel + 1, isRaw, level, body => do
    let (text, rest) ← textPart? isRaw (0 < level) (body.length + 1) body
    let _ ← textOf? isRaw text
    match rest with
    | '{' :: rest =>
      if 2 ≤ level then none
      else
        let (expr, rest) ← expressionPart? [] [] (rest.length + 1) rest
        if expr.all fun c => isBlank c || c = '\n' then none
        else
          let tokens ← tokens? ('(' :: expr ++ [')'])
          match (atom fuel).run tokens with
          | some (_, []) =>
            match ← afterConversion? rest with
            | '}' :: rest => templateParts? fuel isRaw level rest
            | ':' :: rest =>
              match ← templateParts? fuel isRaw (level + 1) rest with
              | '}' :: rest => templateParts? fuel isRaw level rest
              | _ => none
            | _ => none
          | _ => none
    | rest => some rest

end

/-- Expressions with commas between them, and whether the last one is followed by a comma. -/
def expressions : Nat → Reading (List Expr × Bool)
  | 0 => failure
  | fuel + 1 => do
    let first ← expression fuel
    if ← skipMark "," then
      if (← get).isEmpty then return ([first], true)
      else
        let (rest, isOpen) ← expressions fuel
        return (first :: rest, isOpen)
    else return ([first], false)

/-- The expression of a whole text; expressions with commas between them are a tuple. -/
def parse? (text : String) : Option Expr := do
  let cs := text.toList.dropWhile fun c => c = ' ' || c = '\t'
  let tokens ← tokens? (Text.unifyLines (· = '\r') cs)
  -- From one token to the next, fewer calls are nested than this.
  match (expressions (32 * (cs.length + 1))).run tokens with
  | some (([expr], false), []) => some expr
  | some ((exprs, _), []) => some (.tuple exprs)
  | _ => none

end Literal

end PfaScript
