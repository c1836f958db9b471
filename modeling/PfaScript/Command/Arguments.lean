import PfaScript.Command.Option
import PfaScript.Run.Config

/-!
# Arguments

A command line is some global options and a command with options and one argument of its own:

    [--config PATH] [--set KEY=VALUE] [-v] translate [--no-locations] [--format F] [--output P] PATH
    [--config PATH] [--set KEY=VALUE] [-v] strip [--output P] PATH

Everything is understood from left to right, so help is given if it is asked for before the first
mistake. Words that are not understood at all are a mistake only at the end. Of an option that is
given several times the last time counts, apart from overrides.
-/

namespace PfaScript

namespace Command

/-- Why a command line gives no command to perform. -/
inductive Stop where
  | help
  | misuse
deriving DecidableEq, Repr

/-- The exit status of a program that performs no command. -/
def Stop.status : Stop → Nat
  | .help => 0
  | .misuse => 2

/-- Options for compiling. -/
structure CompileOptions where
  /-- Whether documents get no location markers, whatever the configuration says. -/
  withoutLocations : Bool := false
  format : Option Format := none
  output : Option Path := none
deriving DecidableEq, Repr

/-- The commands. -/
inductive Task where
  /-- Compile a script. -/
  | compile (script : Path) (options : CompileOptions)
  /-- Take the location markers out of a document. -/
  | strip (document : Path) (output : Option Path)
deriving DecidableEq, Repr

/-- What a command line asks for, beside the command. -/
structure GlobalOptions where
  /-- The configuration file; without one the built-in configuration counts. -/
  config : Option Path := none
  /-- The overrides, as they are written. -/
  overrides : List String := []
  verbose : Bool := false
deriving DecidableEq, Repr

/-- What a command line asks for. -/
structure Arguments where
  globals : GlobalOptions
  task : Task
deriving DecidableEq, Repr

/-! ### The argument of a command -/

/-- Understands the words after a command: options, and one argument. The separator may stand beside
the argument. `found` is the argument so far, and `extra` says that some word had no meaning. -/
def ownArguments {κ σ : Type} (assign : σ → κ → Option String → Except Stop σ) (options : σ)
    (found : Option String) (extra : Bool) : List (Event κ) → Except Stop (σ × String)
  | [] =>
    match found with
    | some text => if extra then .error .misuse else .ok (options, text)
    | none => .error .misuse
  | .given key value :: rest =>
    match assign options key value with
    | .ok options => ownArguments assign options found extra rest
    | .error stop => .error stop
  | .misuse :: _ => .error .misuse
  | .unknown :: rest => ownArguments assign options found true rest
  | .argument text _ :: .separator :: rest =>
    if found.isNone then ownArguments assign options (some text) extra rest
    else ownArguments assign options found true rest
  | .argument text _ :: rest =>
    if found.isNone then ownArguments assign options (some text) extra rest
    else ownArguments assign options found true rest
  | .separator :: .argument text _ :: rest =>
    if found.isNone then ownArguments assign options (some text) extra rest
    else ownArguments assign options found true rest
  | .separator :: rest => ownArguments assign options found true rest

/-! ### The options of the commands -/

/-- The options of the command that compiles. -/
inductive CompileKey where
  | help | noLocations | format | output
deriving DecidableEq, Repr

/-- The options of the command that compiles, as they are written. -/
def compileGrammar : Grammar CompileKey where
  options := [("-h", .help), ("--help", .help), ("--no-locations", .noLocations),
    ("--format", .format), ("--output", .output)]
  takesValue key := decide (key = .format ∨ key = .output)

/-- Takes note of an option of the command that compiles. -/
def assignCompile (options : CompileOptions) (key : CompileKey) (value : Option String) :
    Except Stop CompileOptions :=
  match key, value with
  | .help, _ => .error .help
  | .noLocations, _ => .ok { options with withoutLocations := true }
  | .format, none => .ok { options with format := none }
  | .format, some name =>
    match Format.ofName? name with
    | some format => .ok { options with format := some format }
    | none => .error .misuse
  | .output, value => .ok { options with output := value.map Path.ofText }

/-- The options of the command that strips. -/
inductive StripKey where
  | help | output
deriving DecidableEq, Repr

/-- The options of the command that strips, as they are written. -/
def stripGrammar : Grammar StripKey where
  options := [("-h", .help), ("--help", .help), ("--output", .output)]
  takesValue key := decide (key = .output)

/-- Takes note of an option of the command that strips. -/
def assignStrip (_output : Option Path) (key : StripKey) (value : Option String) :
    Except Stop (Option Path) :=
  match key with
  | .help => .error .help
  | .output => .ok (value.map Path.ofText)

/-- Understands a command and the words after it. -/
def task (name : String) (after : List String) : Except Stop Task :=
  match name with
  | "translate" =>
    match compileGrammar.words? after with
    | none => .error .misuse
    | some words => do
      let (options, script) ← ownArguments assignCompile {} none false (compileGrammar.events words)
      return .compile (Path.ofText script) options
  | "strip" =>
    match stripGrammar.words? after with
    | none => .error .misuse
    | some words => do
      let (output, document) ← ownArguments assignStrip none none false (stripGrammar.events words)
      return .strip (Path.ofText document) output
  | _ => .error .misuse

/-! ### Global options -/

/-- The global options. -/
inductive GlobalKey where
  | help | config | override | verbose
deriving DecidableEq, Repr

/-- The global options, as they are written. -/
def globalGrammar : Grammar GlobalKey where
  options := [("-h", .help), ("--help", .help), ("--config", .config), ("--set", .override),
    ("-v", .verbose), ("--verbose", .verbose)]
  takesValue key := decide (key = .config ∨ key = .override)

/-- Takes note of a global option. -/
def assignGlobal (options : GlobalOptions) (key : GlobalKey) (value : Option String) :
    Except Stop GlobalOptions :=
  match key with
  | .help => .error .help
  | .config => .ok { options with config := value.map Path.ofText }
  | .override => .ok { options with overrides := options.overrides ++ value.toList }
  | .verbose => .ok { options with verbose := true }

/-- Understands global options up to the command. -/
def understand (options : GlobalOptions) (extra : Bool) :
    List (Event GlobalKey) → Except Stop Arguments
  | .given key value :: rest =>
    match assignGlobal options key value with
    | .ok options => understand options extra rest
    | .error stop => .error stop
  | .unknown :: rest => understand options true rest
  | .argument name after :: _ =>
    match task name after with
    | .ok task => if extra then .error .misuse else .ok { globals := options, task }
    | .error stop => .error stop
  | .separator :: _ => .error .misuse
  | .misuse :: _ => .error .misuse
  | [] => .error .misuse

/-- Understands a command line. -/
def Arguments.ofWords (words : List String) : Except Stop Arguments :=
  match globalGrammar.words? words with
  | none => .error .misuse
  | some words => understand {} false (globalGrammar.events words)

end Command

end PfaScript
