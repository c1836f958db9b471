/-!
# Parts of texts

Texts are lists of characters. They are trimmed of white space, cut at every occurrence of a
character, and have their line ends written in one way.

The characters that count as white space are the controls from tab to carriage return and from file
separator to unit separator, the space, and the separators of Unicode.
-/

namespace PfaScript

namespace Text

/-! ### Blanks -/

/-- Whether a character is white space. -/
def isBlank (c : Char) : Bool :=
  let n := c.toNat
  (9 ≤ n && n ≤ 13) || (28 ≤ n && n ≤ 32) || n = 0x85 || n = 0xa0 || n = 0x1680 ||
    (0x2000 ≤ n && n ≤ 0x200a) || n = 0x2028 || n = 0x2029 || n = 0x202f || n = 0x205f || n = 0x3000

/-- A text without the characters of some kind at its ends. -/
def trimWith (p : Char → Bool) (cs : List Char) : List Char :=
  ((cs.dropWhile p).reverse.dropWhile p).reverse

/-- A text without the blanks at its ends. -/
def trim (cs : List Char) : List Char :=
  trimWith isBlank cs

/-! ### Cuts -/

/-- The parts of a text between the occurrences of a character. The parts put together again, with
the character between them, are the text: there is always one part more than there are cuts. -/
def split (mark : Char) : List Char → List (List Char)
  | [] => [[]]
  | c :: rest =>
    if c = mark then [] :: split mark rest
    else match split mark rest with
      | [] => [[c]]
      | part :: parts => (c :: part) :: parts

/-! ### Line ends -/

/-- The text with every line end written as a line feed: the characters that `isEnd` accepts, and a
carriage return with the line feed after it. -/
def unifyLines (isEnd : Char → Bool) : List Char → List Char
  | '\r' :: '\n' :: rest => '\n' :: unifyLines isEnd rest
  | c :: rest => (if isEnd c then '\n' else c) :: unifyLines isEnd rest
  | [] => []

end Text

end PfaScript
