import Breakpoint.Value

/-!
# Entries of a log

An entry is what a format of log lines can show: named values in a fixed order. An entry knows
its logger, its level and its message. It comes from no place, time, thread or process in
particular, and what it does not know is blank, zero, absent or the main one.
-/

namespace Breakpoint

/-- What a field of a log line shows: a text, the text inside a map, and a whole number if it
is one. -/
structure FieldValue where
  text : Text
  inner : Text
  number : Option Nat := none
  deriving DecidableEq, Repr

namespace FieldValue

/-- A text. -/
def ofText (text : Text) : FieldValue := ⟨text, Text.quoted text, none⟩

/-- A whole number. -/
def ofNat (n : Nat) : FieldValue := ⟨toString n, toString n, some n⟩

/-- A value with one text wherever it is shown. -/
def ofSigns (text : Text) : FieldValue := ⟨text, text, none⟩

/-- What is absent. -/
def absent : FieldValue := ofSigns (Value.null.inner)

/-- A point of time or a stretch of it, about which nothing is known. -/
def noTime : FieldValue := ofSigns "0.0"

/-- Fields with their names, as one value. -/
def ofFields (fields : List (Text × FieldValue)) : FieldValue :=
  ofSigns <| "\x7b" ++ Value.joinComma (fields.map fun (name, value) =>
    Text.quoted name ++ ": " ++ value.inner) ++ "\x7d"

end FieldValue

/-- What a format can show of a report. -/
structure LogEntry where
  logger : Text
  level : Text
  levelNumber : Nat
  message : Text
  deriving DecidableEq, Repr

namespace LogEntry

/-- The fields of an entry in their order. -/
def fields (entry : LogEntry) : List (Text × FieldValue) :=
  [("name", .ofText entry.logger), ("msg", .ofText entry.message), ("args", .ofSigns "()"),
   ("levelname", .ofText entry.level), ("levelno", .ofNat entry.levelNumber),
   ("pathname", .ofText ""), ("filename", .ofText ""), ("module", .ofText ""),
   ("exc_info", .absent), ("exc_text", .absent), ("stack_info", .absent),
   ("lineno", .ofNat 0), ("funcName", .absent),
   ("created", .noTime), ("msecs", .noTime), ("relativeCreated", .noTime),
   ("thread", .ofNat 0), ("threadName", .ofText "MainThread"),
   ("processName", .ofText "MainProcess"), ("process", .ofNat 0),
   ("message", .ofText entry.message)]

/-- The written time, which stands outside the whole entry. -/
def timeField : Text × FieldValue := ("asctime", .ofText "1970-01-01 00:00:00,000")

/-- The field of a name, or the whole entry for no name. -/
def value? (entry : LogEntry) : Option Text → Option FieldValue
  | some name => (entry.fields ++ [timeField]).lookup name
  | none => some (.ofFields entry.fields)

end LogEntry

end Breakpoint
