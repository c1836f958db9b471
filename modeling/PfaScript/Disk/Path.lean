import PfaScript.Text.Basic

/-!
# Paths

Names of files. A path is a list of names, under the root or relative to the working directory; the
name `.` and repeated slashes do not count.
-/

namespace PfaScript

/-- The name of a file or directory. -/
structure Path where
  /-- The slashes before an absolute path: none, one or two. -/
  root : String
  /-- The names, from the outermost to the innermost. -/
  parts : List String
deriving DecidableEq, Repr

namespace Path

/-- The slashes at the start of a path. Exactly two are kept, any other number counts as one. -/
def rootOf (cs : List Char) : String :=
  match (cs.takeWhile (· = '/')).length with
  | 0 => ""
  | 2 => "//"
  | _ => "/"

/-- The path that a text writes. -/
def ofText (text : String) : Path where
  root := rootOf text.toList
  parts := ((Text.split '/' text.toList).map String.ofList).filter fun part =>
    part ≠ "" && part ≠ "."

/-- The text of a path. -/
def toText (path : Path) : String :=
  if path.root.isEmpty && path.parts.isEmpty then "."
  else path.root ++ "/".intercalate path.parts

/-- The last name of a path. -/
def name (path : Path) : String :=
  path.parts.getLast?.getD ""

/-- The path without its last name. -/
def parent (path : Path) : Path :=
  { path with parts := path.parts.dropLast }

/-- The path to a file in a directory. -/
def child (path : Path) (name : String) : Path :=
  { path with parts := path.parts ++ [name] }

/-- The name before its last point and the text from that point on. A point that is the first or the
last character of a name does not count. -/
def splitName (name : String) : String × String :=
  let cs := name.toList
  let tail := cs.reverse.takeWhile (· ≠ '.')
  let stem := cs.take (cs.length - tail.length - 1)
  if tail.isEmpty || stem.isEmpty || tail.length = cs.length then (name, "")
  else (String.ofList stem, String.ofList ('.' :: tail.reverse))

/-- The last name without its ending. -/
def stem (path : Path) : String :=
  (splitName path.name).1

/-- The ending of the last name, with its point. -/
def suffix (path : Path) : String :=
  (splitName path.name).2

end Path

end PfaScript
