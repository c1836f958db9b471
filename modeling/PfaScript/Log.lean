/-!
# Logs

What happens during a run is recorded in a log: each record has a level, the name of the part of the
program that wrote it, and a message. Only records that are important enough are kept.
-/

namespace PfaScript

/-- How important a record is. -/
inductive Level where
  | debug
  | info
  | warning
  | error
deriving DecidableEq, Repr

namespace Level

/-- The name of a level. -/
def name : Level → String
  | .debug => "DEBUG"
  | .info => "INFO"
  | .warning => "WARNING"
  | .error => "ERROR"

/-- The rank of a level. -/
def rank : Level → Nat
  | .debug => 10
  | .info => 20
  | .warning => 30
  | .error => 40

end Level

/-- A record of a log. -/
structure LogRecord where
  level : Level
  logger : String
  message : String
deriving DecidableEq, Repr

/-- The records so far, the oldest first, and the level from which on records are kept. -/
structure Log where
  threshold : Level := .warning
  records : List LogRecord := []
deriving DecidableEq, Repr

/-- The log with one more record, if it is important enough. -/
def Log.add (log : Log) (level : Level) (logger message : String) : Log :=
  if log.threshold.rank ≤ level.rank then
    { log with records := log.records ++ [⟨level, logger, message⟩] }
  else log

end PfaScript
