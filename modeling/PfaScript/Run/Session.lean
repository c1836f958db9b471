import PfaScript.Compile.Fault
import PfaScript.Disk.Basic
import PfaScript.Hook.Monitor
import PfaScript.Json.Printer
import PfaScript.Run.Config
import PfaScript.Setting.Override
import PfaScript.Yaml.Problem

/-!
# Sessions

A run reads and writes files, tells hooks of events and writes to the log. All of this is a
`Session`, and `Run` is what may change it and may fail. What was changed before a failure stays.
-/

namespace PfaScript

/-- What a file that a run needs is for. -/
inductive FileRole where
  | script
  | document
  | configuration
deriving DecidableEq, Repr

/-- The name of a file's role in messages. -/
def FileRole.name : FileRole → String
  | .script => "AST file"
  | .document => "document"
  | .configuration => "configuration file"

/-- Why a run fails. -/
inductive Failure where
  /-- The script cannot be compiled. -/
  | fault (fault : Fault)
  /-- A line or column of the script is infinite. -/
  | infinitePosition
  | missingFile (role : FileRole) (path : Path)
  | disk (error : DiskError)
  /-- The document to be stripped is not JSON. -/
  | notJson (error : Json.ReadError)
  /-- The configuration file is not YAML. -/
  | notYaml (path : Path)
  /-- A scalar of the configuration file does not write a value of its type. -/
  | scalar (problem : Yaml.Problem)
  /-- The configuration file holds no mapping. -/
  | configRoot
  | config (error : ConfigError)
  | override (error : OverrideError)
  /-- The document cannot be written as a text. -/
  | unwritable (error : Json.WriteError)
deriving DecidableEq, Repr

/-- The wording of a failure. That of a file that is not YAML leaves out where and why it is not. -/
def Failure.message : Failure → String
  | .fault f => f.text
  | .infinitePosition => "cannot convert float infinity to integer"
  | .missingFile role path => s!"{role.name} not found: {path.toText}"
  | .disk e => e.message
  | .notJson e => e.message
  | .notYaml path => s!"failed to parse configuration {path.toText}"
  | .scalar problem => problem.message
  | .configRoot => "configuration root must be a mapping"
  | .config e => e.message
  | .override e => e.message
  | .unwritable e => e.message

/-- The text of a file that must be there. -/
def Disk.text (disk : Disk) (role : FileRole) (path : Path) : Except Failure String :=
  match disk.exists? path with
  | .error error => .error (.disk error)
  | .ok false => .error (.missingFile role path)
  | .ok true => (disk.read path).mapError .disk

/-- Writes a text to a file, after the directories above it were made, or fails if there is no text.
What was made before a failure stays. -/
def Disk.put (path : Path) (text : Except Failure String) (disk : Disk) :
    Except Failure Unit × Disk :=
  match disk.makeDirectories path.parent with
  | (.error error, made) => (.error (.disk error), made)
  | (.ok _, made) =>
    match text with
    | .error failure => (.error failure, made)
    | .ok text =>
      match made.write path text with
      | .error error => (.error (.disk error), made)
      | .ok written => (.ok (), written)

/-- The files, and what watches the run. -/
structure Session where
  disk : Disk
  monitor : Monitor := {}
deriving Repr

/-- A computation that may change the session and may fail. -/
abbrev Run (α : Type) := ExceptT Failure (StateM Session) α

namespace Run

/-- Fails or not, without a change. -/
def ofExcept {ε α : Type} (failure : ε → Failure) : Except ε α → Run α
  | .ok result => pure result
  | .error error => throw (failure error)

/-- Writes a record to the log. -/
def record (level : Level) (logger message : String) : Run Unit :=
  modify fun s => { s with monitor := s.monitor.record level logger message }

/-- Tells an event to the hooks. -/
def notify (behaviour : Hook.Behaviour) (name : String) (payload : Entries Key Setting) :
    Run Unit :=
  modify fun s => { s with monitor := (s.monitor.notify behaviour ⟨name, payload⟩).2 }

/-- Asks for something that is made of the files only. -/
def ask {α : Type} (f : Disk → Except Failure α) : Run α := do
  ofExcept id (f (← get).disk)

/-- Writes a file. -/
def put (path : Path) (text : Except Failure String) : Run Unit := do
  let (result, disk) := (← get).disk.put path text
  modify fun s => { s with disk }
  ofExcept id result

end Run

end PfaScript
