import PfaScript.Command.Arguments
import PfaScript.Run.Job

/-!
# Performing commands

A command reads its configuration, does its job and prints what is to be printed. Failures are
reported on the error output, and the exit status tells whether there was one; a few failures are
not expected and escape.
-/

namespace PfaScript

namespace Command

/-- What a command prints. -/
structure Output where
  stdout : String := ""
  stderr : String := ""
deriving DecidableEq, Repr

/-- What a program that has finished leaves behind, beside its files. -/
structure Finished where
  status : Nat
  output : Output
deriving DecidableEq, Repr

/-- The overrides that the options for compiling stand for. -/
def CompileOptions.overrides (options : CompileOptions) : Setting :=
  let locations : Entries Key Setting :=
    if options.withoutLocations then [(.str "with_locations", .bool false)] else []
  let format : Entries Key Setting := match options.format with
    | some format => [(.str "output", .map [(.str "format", .str format.name)])]
    | none => []
  .map (locations ++ format)

/-- Writes the document of a report, or prints it if it has no destination. -/
def deliver (behaviour : Hook.Behaviour) (options : OutputOptions) (report : Report) :
    Option Path → Run Output
  | some destination => do
    let exported ← Run.exportReport behaviour options report destination
    return { stderr := s!"[pfajs] {report.summary} -> {exported.path.toText}\n" }
  | none => do
    let text ← Run.ofExcept .unwritable
      (Document.render options.format options.style report.document)
    return { stdout := text }

/-- Compiles a script and prints or writes its document. -/
def compile (behaviour : Hook.Behaviour) (config : Config) (script : Path)
    (options : CompileOptions) : Run Output := do
  let config ← Run.ofExcept .config (config.override options.overrides)
  let report ← Run.compileFile behaviour config script
  deliver behaviour config.output report (options.output.or config.output.directory)

/-- Writes the text of a stripped document, or prints it if it has no destination. -/
def deliverStripped (text : String) : Option Path → Run Output
  | some path => do
    Run.put path (.ok text)
    return { stderr := s!"[pfajs] stripped document written to {path.toText}\n" }
  | none => return { stdout := text }

/-- Takes the location markers out of a document, and prints or writes it. -/
def strip (config : Config) (document : Path) (output : Option Path) : Run Output := do
  let text ← Run.ofExcept .unwritable ((← Run.ask (·.stripped document)).page config.output.style)
  deliverStripped text output

/-- The configuration that the global options ask for. The overrides are read first. -/
def configure (globals : GlobalOptions) (disk : Disk) : Except Failure Config := do
  let overrides ← (Override.readAll globals.overrides).mapError .override
  disk.config globals.config (.map overrides)

/-- Performs a command. -/
def perform (behaviour : Hook.Behaviour) (arguments : Arguments) : Run Output := do
  let config ← Run.ask (configure arguments.globals)
  match arguments.task with
  | .compile script options => compile behaviour config script options
  | .strip document output => strip config document output

/-- Whether a problem with a scalar is reported. -/
def isReportedProblem : Yaml.Problem → Bool
  | .notATruthValue _ => false
  | .tooManyParts => false
  | .emptyNumber => false
  | .notATime => false
  | .timeInMapping => false
  | .codeTooLarge => false
  | .endlessDefault => false
  | _ => true

/-- Whether a failure is reported; any other one escapes. -/
def isReported : Failure → Bool
  | .infinitePosition => false
  | .config (.unsupportedFormat _) => true
  | .config _ => false
  | .override (.unhashable _) => false
  | .override .tooLarge => false
  | .unwritable .wideIndent => false
  | .scalar problem => isReportedProblem problem
  | _ => true

/-- The report of a failure. -/
def diagnostic : Failure → String
  | .fault fault =>
    let place := match fault.location with
      | some location => s!"[pfajs] at {location}\n"
      | none => ""
    s!"[pfajs] {fault.cause.kind.name}: {fault.cause.message}\n{place}"
  | failure => s!"[pfajs] error: {failure.message}\n"

/-- The session in which a command starts: verbose ones log everything. -/
def start (disk : Disk) (arguments : Arguments) : Session :=
  { disk, monitor :=
      { log := { threshold := if arguments.globals.verbose then .debug else .warning } } }

/-- Performs a command on the files of a disk: how it ends, or the failure that escapes, and the
session afterwards. -/
def run (behaviour : Hook.Behaviour) (disk : Disk) (arguments : Arguments) :
    Except Failure Finished × Session :=
  match (perform behaviour arguments).run (start disk arguments) with
  | (.ok output, session) => (.ok { status := 0, output }, session)
  | (.error failure, session) =>
    if isReported failure then
      (.ok { status := 1, output := { stderr := diagnostic failure } }, session)
    else (.error failure, session)

end Command

end PfaScript
