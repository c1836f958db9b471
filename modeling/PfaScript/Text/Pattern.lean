/-!
# Patterns

Regular patterns of characters. A text matches a pattern if the pattern that is left after taking
the text's characters away one by one accepts the empty text.
-/

namespace PfaScript

/-- A regular pattern. -/
inductive Pattern where
  /-- No text. -/
  | nothing
  /-- The empty text. -/
  | empty
  /-- One character of a class. -/
  | one (accepts : Char → Bool)
  /-- A text of the first pattern, then one of the second. -/
  | seq (first second : Pattern)
  /-- A text of either pattern. -/
  | alt (first second : Pattern)
  /-- Any number of texts of the pattern, one after the other. -/
  | star (inner : Pattern)

namespace Pattern

/-- `seq` without parts that do not matter. -/
def chained : Pattern → Pattern → Pattern
  | .nothing, _ => .nothing
  | .empty, second => second
  | first, second => .seq first second

/-- `alt` without parts that do not matter. -/
def either : Pattern → Pattern → Pattern
  | .nothing, second => second
  | first, .nothing => first
  | first, second => .alt first second

/-- Whether the empty text matches. -/
def acceptsEmpty : Pattern → Bool
  | .nothing => false
  | .empty => true
  | .one _ => false
  | .seq first second => first.acceptsEmpty && second.acceptsEmpty
  | .alt first second => first.acceptsEmpty || second.acceptsEmpty
  | .star _ => true

/-- What is left of a pattern after a character. -/
def after (c : Char) : Pattern → Pattern
  | .nothing => .nothing
  | .empty => .nothing
  | .one accepts => if accepts c then .empty else .nothing
  | .seq first second =>
    let taken := (first.after c).chained second
    if first.acceptsEmpty then taken.either (second.after c) else taken
  | .alt first second => (first.after c).either (second.after c)
  | .star inner => (inner.after c).chained (.star inner)

/-- Whether a text matches a pattern. -/
def accepts (pattern : Pattern) (cs : List Char) : Bool :=
  (cs.foldl (fun p c => p.after c) pattern).acceptsEmpty

/-- One character out of a list. -/
def anyOf (s : String) : Pattern :=
  .one fun c => s.toList.contains c

/-- Exactly this text. -/
def word (s : String) : Pattern :=
  s.toList.foldr (fun c rest => .seq (.one (· == c)) rest) .empty

/-- The patterns one after the other. -/
def all (patterns : List Pattern) : Pattern :=
  patterns.foldr .seq .empty

/-- Any of the patterns. -/
def any (patterns : List Pattern) : Pattern :=
  patterns.foldr .alt .nothing

/-- The pattern or nothing. -/
def optional (pattern : Pattern) : Pattern :=
  .alt .empty pattern

/-- The pattern at least once. -/
def many (pattern : Pattern) : Pattern :=
  .seq pattern (.star pattern)

/-- A decimal digit. -/
def digit : Pattern :=
  .one Char.isDigit

end Pattern

end PfaScript
