import PfaScript.Command.Run

/-!
# Paths of a command

The paths that a command may read or write: those that are named on the command line, and those that
its configuration leads to.
-/

namespace PfaScript

namespace Command

/-- The path of a command's argument. -/
def Task.argument : Task → Path
  | .compile script _ => script
  | .strip document _ => document

/-- The path of a command's output, if the command line names one. -/
def Task.output : Task → Option Path
  | .compile _ options => options.output
  | .strip _ output => output

/-- The paths on a command line. -/
def Arguments.paths (arguments : Arguments) : List Path :=
  arguments.globals.config.toList ++ [arguments.task.argument] ++ arguments.task.output.toList

/-- The configuration of a command, as far as it can be read. -/
def Arguments.config? (arguments : Arguments) (disk : Disk) : Option Config :=
  (configure arguments.globals disk).toOption

/-- The paths that a document may be written to. -/
def Arguments.destinations (arguments : Arguments) (disk : Disk) : List Path :=
  let directory := (arguments.config? disk).bind fun config => config.output.directory
  match arguments.task.output.or directory with
  | none => []
  | some destination =>
    destination :: [Format.json, Format.yaml].map fun format =>
      destination.child s!"{arguments.task.argument.stem}.{format.name}"

end Command

end PfaScript
