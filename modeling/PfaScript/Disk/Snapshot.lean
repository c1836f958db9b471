import PfaScript.Disk.Basic

/-!
# Snapshots of disks

A disk can be built path by path from what is found there, and what a program has changed on it can
be read off by comparing it with the disk before.
-/

namespace PfaScript

/-- A path and all paths that lead to it, the outermost first. -/
def Path.leading (path : Path) : List Path :=
  (List.range (path.parts.length + 1)).map fun n => { path with parts := path.parts.take n }

namespace Disk

/-- A disk with nothing on it. -/
def empty : Disk := { files := [], directories := [] }

/-- The location that a path names if everything on the way is a directory. -/
def named (path : Path) : Location :=
  path.parts.foldl (fun location name => if name = ".." then above location else location ++ [name])
    (if path.root.isEmpty then [] else ["/"])

/-- The disk with a file that was found at a path. -/
def withFile (disk : Disk) (path : Path) (text : String) : Disk :=
  { disk with files := disk.files.insert (named path) text }

/-- The disk with a directory that was found at a path. -/
def withDirectory (disk : Disk) (path : Path) : Disk :=
  { disk with directories := named path :: disk.directories }

/-- The text of a location. -/
def locationText : Location → String
  | "/" :: names => "/" ++ "/".intercalate names
  | names => "/".intercalate names

/-- The directories that are new after a change, the oldest first. -/
def newDirectories (before after : Disk) : List Location :=
  (after.directories.filter (!before.hasDirectory ·)).reverse

/-- The files that are new or have a new text after a change. -/
def changedFiles (before after : Disk) : Entries Location String :=
  after.files.filter fun (location, text) => !(before.file? location == some text)

end Disk

end PfaScript
