import PfaScript.Command.Paths
import PfaScript.Disk.Snapshot

/-!
# The command line

The outer layer of the program: it looks at the files that a command may need, lets the command run
on this snapshot, and then makes the changes and prints the texts that the command asks for.
-/

namespace PfaScript

namespace CommandLine

/-- Adds what is found at a path to a snapshot. -/
def look (disk : Disk) (path : Path) : IO Disk := do
  match ← (IO.FS.readFile path.toText).toBaseIO with
  | .ok text => return disk.withFile path text
  | .error (.inappropriateType none _ _) => return disk.withDirectory path
  | .error _ => return disk

/-- Adds what is found at some paths, and on the way to them, to a snapshot. -/
def snapshot (disk : Disk) (paths : List Path) : IO Disk :=
  (paths.flatMap Path.leading).foldlM look disk

/-- Makes the changes between two snapshots. -/
def commit (before after : Disk) : IO Unit := do
  for location in Disk.newDirectories before after do
    IO.FS.createDirAll (Disk.locationText location)
  for (location, text) in Disk.changedFiles before after do
    IO.FS.writeFile (Disk.locationText location) text

/-- How the program is called. -/
def usage : String :=
  "usage: pfajs [-h] [--config CONFIG] [--set KEY=VALUE] [-v] \x7btranslate,strip\x7d ..."

/-- Performs a command on the files of the system. -/
def perform (arguments : Command.Arguments) : IO UInt32 := do
  let disk ← snapshot Disk.empty arguments.paths
  let disk ← snapshot disk (arguments.destinations disk)
  let (result, session) := Command.run (fun _ _ _ => {}) disk arguments
  commit disk session.disk
  for record in session.monitor.log.records do
    IO.eprintln s!"{record.level.name} | {record.logger} | {record.message}"
  match result with
  | .ok finished =>
    IO.print finished.output.stdout
    IO.eprint finished.output.stderr
    return finished.status.toUInt32
  | .error failure =>
    IO.eprintln failure.message
    return 1

end CommandLine

end PfaScript

/-- The program. -/
def main (words : List String) : IO UInt32 := do
  match PfaScript.Command.Arguments.ofWords words with
  | .ok arguments => PfaScript.CommandLine.perform arguments
  | .error stop =>
    if stop.status = 0 then IO.println PfaScript.CommandLine.usage
    else IO.eprintln PfaScript.CommandLine.usage
    return stop.status.toUInt32
