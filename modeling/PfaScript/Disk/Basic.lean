import PfaScript.Disk.Path
import PfaScript.Entries
import PfaScript.Text.Basic
import PfaScript.Text.Quoted

/-!
# Disks

Files and directories as plain data, so that what a program does to them can be stated and proved.
Paths are looked up name by name: only a directory has names in it, and `..` leads to the directory
above. The working directory, the root and whatever lies above the working directory always exist.

Files hold texts and names are texts. A file whose bytes are no text in UTF-8, which is refused when
it is read, and a name with half of a surrogate pair have no counterpart here. Names and paths of
any other kind do, and those that the system does not take are refused.
-/

namespace PfaScript

/-- Where a file or directory really is: the names that lead to it from the working directory, or
from the root if the first one is a slash. -/
abbrev Location := List String

/-- The ways in which the system refuses an operation on a path. -/
inductive DiskError.Cause where
  | notFound
  | exists
  | notADirectory
  | isADirectory
  /-- A name or the whole path is too long. -/
  | nameTooLong
  /-- A name has a null character. -/
  | embeddedNull
deriving DecidableEq, Repr

/-- An operation that the system refuses. -/
structure DiskError where
  cause : DiskError.Cause
  path : Path
deriving DecidableEq, Repr

/-- The wording of a refusal. -/
def DiskError.message (error : DiskError) : String :=
  let about (reason : String) : String := s!"{reason}: {Text.quoted error.path.toText}"
  match error.cause with
  | .notFound => about "[Errno 2] No such file or directory"
  | .exists => about "[Errno 17] File exists"
  | .notADirectory => about "[Errno 20] Not a directory"
  | .isADirectory => about "[Errno 21] Is a directory"
  | .nameTooLong => about "[Errno 36] File name too long"
  | .embeddedNull => "embedded null byte"

/-- The bytes that a path takes, with one more after each name. -/
def Path.size (path : Path) : Nat :=
  path.parts.foldl (fun bytes name => bytes + name.utf8ByteSize + 1) path.root.utf8ByteSize

/-- Why the system refuses a path before it looks anywhere. -/
def Path.refusal? (path : Path) : Option DiskError.Cause :=
  if path.parts.any (·.toList.contains '\x00') then some .embeddedNull
  else if 4096 < path.size then some .nameTooLong
  else none

/-- The files and directories. -/
structure Disk where
  files : Entries Location String
  directories : List Location
deriving Repr

namespace Disk

/-- The directory above a location. -/
def above (location : Location) : Location :=
  if location = ["/"] then location
  else if location.isEmpty || location.getLast? = some ".." then location ++ [".."]
  else location.dropLast

/-- Whether there is a directory at a location. -/
def hasDirectory (disk : Disk) (location : Location) : Bool :=
  location.all (· = "..") || location = ["/"] || disk.directories.contains location

/-- The text of the file at a location. -/
def file? (disk : Disk) (location : Location) : Option String :=
  disk.files.get? location

/-- Whether there is anything at a location. -/
def has (disk : Disk) (location : Location) : Bool :=
  disk.hasDirectory location || (disk.file? location).isSome

/-- Follows names from a location. Every name but the last must lead to a directory, and none may
have more than 255 bytes. -/
def follow (disk : Disk) (location : Location) : List String → Except DiskError.Cause Location
  | [] => .ok location
  | name :: rest =>
    if disk.hasDirectory location then
      if 255 < name.utf8ByteSize then .error .nameTooLong
      else disk.follow (if name = ".." then above location else location ++ [name]) rest
    else if (disk.file? location).isSome then .error .notADirectory
    else .error .notFound

/-- The location of a path. -/
def locate (disk : Disk) (path : Path) : Except DiskError.Cause Location :=
  match path.refusal? with
  | some cause => .error cause
  | none => disk.follow (if path.root.isEmpty then [] else ["/"]) path.parts

/-- Whether a path leads to a location of a kind. Only a path that is too long has no answer. -/
def leadsTo (disk : Disk) (kind : Location → Bool) (path : Path) : Except DiskError Bool :=
  match disk.locate path with
  | .ok location => .ok (kind location)
  | .error .nameTooLong => .error ⟨.nameTooLong, path⟩
  | .error _ => .ok false

/-- Whether a path leads to anything. -/
def exists? (disk : Disk) : Path → Except DiskError Bool :=
  disk.leadsTo disk.has

/-- Whether a path leads to a directory. -/
def isDirectory (disk : Disk) : Path → Except DiskError Bool :=
  disk.leadsTo disk.hasDirectory

/-- The text of a file, with its line ends written as line feeds. -/
def read (disk : Disk) (path : Path) : Except DiskError String :=
  match disk.locate path with
  | .error cause => .error ⟨cause, path⟩
  | .ok location =>
    if disk.hasDirectory location then .error ⟨.isADirectory, path⟩ else
    match disk.file? location with
    | some text => .ok (String.ofList (Text.unifyLines (· = '\r') text.toList))
    | none => .error ⟨.notFound, path⟩

/-- The disk with a file's text replaced. -/
def write (disk : Disk) (path : Path) (text : String) : Except DiskError Disk :=
  match disk.locate path with
  | .error cause => .error ⟨cause, path⟩
  | .ok location =>
    if disk.hasDirectory location then .error ⟨.isADirectory, path⟩
    else .ok { disk with files := disk.files.insert location text }

/-- Makes a directory in a directory that is there. One that is already there is accepted. -/
def makeDirectory (path : Path) (disk : Disk) : Except DiskError Unit × Disk :=
  match disk.locate path with
  | .error cause => (.error ⟨cause, path⟩, disk)
  | .ok location =>
    if disk.hasDirectory location then (.ok (), disk)
    else if (disk.file? location).isSome then (.error ⟨.exists, path⟩, disk)
    else (.ok (), { disk with directories := location :: disk.directories })

/-- Makes a directory and all those above it, as far as they are missing, and at most so many. -/
def makeDirectoriesUpTo : Nat → Path → Disk → Except DiskError Unit × Disk
  | 0, path, disk => makeDirectory path disk
  | depth + 1, path, disk =>
    match makeDirectory path disk with
    | (.error ⟨.notFound, _⟩, disk) =>
      match makeDirectoriesUpTo depth path.parent disk with
      | (.ok _, disk) => makeDirectory path disk
      | failed => failed
    | done => done

/-- Makes a directory and all those above it, as far as they are missing. Directories made before a
refusal stay. -/
def makeDirectories (path : Path) (disk : Disk) : Except DiskError Unit × Disk :=
  makeDirectoriesUpTo path.parts.length path disk

/-- The disk with these files and all directories that their names need. -/
def ofFiles (files : List (String × String)) : Disk :=
  let located := files.map fun (name, text) => ((Path.ofText name).parts, text)
  { files := Entries.ofList located
    directories := located.flatMap fun (location, _) =>
      (List.range location.length).map fun n => location.take n }

end Disk

end PfaScript
