import Breakpoint.Fault

/-!
# Log records

What the parts of the library report. Every record is kept; a reader leaves the debug records
out unless they were asked for.
-/

namespace Breakpoint

/-- How much a record matters. -/
inductive Level where
  | debug
  | warning
  | error
  deriving DecidableEq, Repr

/-- The name of a level in a log line. -/
def Level.name : Level → Text
  | .debug => "DEBUG"
  | .warning => "WARNING"
  | .error => "ERROR"

/-- The part of the library that reports. -/
inductive Source where
  | parser
  | overrides
  | notifier
  | engine
  | binding
  deriving DecidableEq, Repr

/-- The name of a part below the root of all logger names. -/
def Source.name : Source → Text
  | .parser => "Parser"
  | .overrides => "Overrides"
  | .notifier => "Notifier"
  | .engine => "Engine"
  | .binding => "Binding"

/-- One report, with the fault it is about if there is one. -/
structure LogRecord where
  level : Level
  source : Source
  message : Text
  fault : Option Fault := none
  deriving DecidableEq

/-- Whether a reader that asked for debug records, or did not, sees the record. -/
def LogRecord.isShown (record : LogRecord) (debug : Bool) : Bool :=
  debug || record.level != .debug

/-- The records that a reader sees. -/
def shownRecords (records : List LogRecord) (debug : Bool) : List LogRecord :=
  records.filter (·.isShown debug)

/-- The root of all logger names. -/
def loggerRoot : Text := "PreviewMedia"

/-- The name of the logger for a part, the root itself for an empty suffix. -/
def loggerName (suffix : Text) : Text :=
  if suffix.isEmpty then loggerRoot else loggerRoot ++ "." ++ suffix

/-- A record as a line of a log, without the time. -/
def LogRecord.line (record : LogRecord) : Text :=
  record.level.name ++ " " ++ loggerName record.source.name ++ ": " ++ record.message

end Breakpoint
