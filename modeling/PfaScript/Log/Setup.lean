import PfaScript.Yaml.Reader

/-!
# Setting up the log

The mapping that says how log records are written. It has built-in sections, and a file can replace
whole sections of it; other entries of the file do not count.
-/

namespace PfaScript

namespace LogSetup

/-- A mapping with texts as keys. -/
def mapping (entries : List (String × Setting)) : Setting :=
  .map (entries.map fun (key, value) => (.str key, value))

/-- The names of the sections. -/
def sections : List String :=
  ["version", "disable_existing_loggers", "formatters", "handlers", "root", "loggers"]

/-- The built-in sections: records from warnings on go to the console. -/
def builtIn : Entries Key Setting :=
  [(.str "version", .int 1),
    (.str "disable_existing_loggers", .bool false),
    (.str "formatters", mapping [("standard",
      mapping [("format", .str "%(asctime)s | %(levelname)-8s | %(name)s | %(message)s")])]),
    (.str "handlers", mapping [("console",
      mapping [("class", .str "logging.StreamHandler"), ("stream", .str "ext://sys.stderr"),
        ("formatter", .str "standard")])]),
    (.str "root", mapping [("level", .str "WARNING"), ("handlers", .list [.str "console"])]),
    (.str "loggers", mapping [("pfajs",
      mapping [("level", .str "WARNING"), ("handlers", .list [.str "console"]),
        ("propagate", .bool false)])])]

/-- Whether a key names a section. -/
def isSection (key : Key) : Bool :=
  sections.any fun name => key == .str name

/-- The sections after a file's text, if there is a file, has been read over the built-in ones. A
text that is no mapping changes nothing. -/
def ofText (text : Option String) : Except Yaml.Problem (Entries Key Setting) :=
  match text.map Yaml.read with
  | some (.ok (.map entries)) =>
    .ok (builtIn.update (entries.filter fun entry => isSection entry.1))
  | some (.error .malformed) => .ok builtIn
  | some (.error problem) => .error problem
  | _ => .ok builtIn

end LogSetup

/-- Why a part of a program cannot log: its name is empty or no text. -/
inductive LoggerError where
  | nameless
deriving DecidableEq, Repr

/-- The wording of a logger error. -/
def LoggerError.message : LoggerError → String
  | .nameless => "logger name must be a non-empty string"

/-- The name of a part of a program that logs. -/
def loggerName : Setting → Except LoggerError String
  | .str "" => .error .nameless
  | .str name => .ok name
  | _ => .error .nameless

end PfaScript
