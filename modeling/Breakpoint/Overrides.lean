import Breakpoint.Document
import Breakpoint.Log
import Breakpoint.Query.Keyword

/-!
# Overrides

Features that the size of a viewport does not tell may be overridden by name. Overrides come
as a map of values, of which those that are null are left out and the others become text; a
new map replaces the whole one before it. A map with a value that has no text is refused.
-/

namespace Breakpoint

/-- What is found where a file should be: its bytes, or why it cannot be read. -/
abbrev FileContent := Except StorageFault ByteArray

/-- The document in the bytes of a file, if they hold a well-formed one. Bytes that are no text are a
fault, and so is a text that is refused. -/
def Document.ofBytes (room : Nat) (bytes : ByteArray) : Except Fault (Option Value) :=
  match Text.ofUtf8? bytes with
  | none => .error .undecodable
  | some text =>
    match Document.read room text with
    | .ok value => .ok (some value)
    | .error .malformed => .ok none
    | .error (.refused refusal) => .error refusal.fault

namespace Overrides

/-- The record of an override that no feature answers to. -/
def unknownRecord (name : Text) : LogRecord :=
  ⟨.debug, .overrides, "Keeping override for unknown media feature " ++ Text.quoted name, none⟩

/-- The overrides that a map of values means. -/
def normalise (values : Dict Value) : Dict Text :=
  .ofList (values.entries.filterMap fun entry =>
    match entry.2 with
    | .null => none
    | value => some (entry.1, value.display))

/-- Overrides as a map of values. -/
def toValues (overrides : Dict Text) : Dict Value :=
  ⟨overrides.entries.map fun entry => (entry.1, .text entry.2)⟩

/-- The records of a map of values. -/
def normaliseRecords (values : Dict Value) : List LogRecord :=
  values.entries.filterMap fun entry =>
    match entry.2 with
    | .null => none
    | _ => if isOverridable entry.1 then none else some (unknownRecord entry.1)

/-- Why a map of values is refused: the first of them that has no text. -/
def fault? (room : Nat) (values : Dict Value) : Option Fault :=
  Value.entriesFault? room values.entries

/-- The overrides that a map of values means, unless it is refused. -/
def normaliseWithin (room : Nat) (values : Dict Value) : Except Fault (Dict Text) :=
  match fault? room values with
  | some fault => .error fault
  | none => .ok (normalise values)

/-- The entries up to the first whose value has no text, that one included. -/
def triedEntries (room : Nat) : List (Text × Value) → List (Text × Value)
  | [] => []
  | entry :: rest =>
    entry :: if (entry.2.textFault? room).isSome then [] else triedEntries room rest

/-- The records of a map of values that is refused. -/
def refusedRecords (room : Nat) (values : Dict Value) : List LogRecord :=
  normaliseRecords ⟨triedEntries room values.entries⟩

/-- The overrides in one line, by name. -/
def summary (overrides : Dict Text) : Text :=
  if overrides.entries.isEmpty then "none"
  else Value.joinComma (overrides.sorted.map fun entry => entry.1 ++ "=" ++ entry.2)

/-- The record of a new map of overrides. -/
def replacedRecord (overrides : Dict Text) : LogRecord :=
  ⟨.debug, .overrides, "Media feature overrides replaced: " ++ summary overrides, none⟩

/-- The records of a map of values that replaces the overrides. -/
def replaceRecords (values : Dict Value) : List LogRecord :=
  normaliseRecords values ++ [replacedRecord (normalise values)]

/-- Overrides are read-only to those who look at them. -/
def assign (_ : Dict Text) (_ _ : Text) : Except Fault (Dict Text) := .error .wrongKind

/-- The record of a file that holds no document. -/
def malformedRecord (path : Text) : LogRecord :=
  ⟨.warning, .overrides, "Ignoring malformed overrides file " ++ path, none⟩

/-- The map of values that a document of overrides holds: the one under the name for
overrides if that is a map, else the whole document. -/
def valuesOf (entries : List (Text × Value)) : Dict Value :=
  match (Dict.mk entries).get? "overrides" with
  | some (.dict nested) => ⟨nested⟩
  | _ => ⟨entries⟩

/-- The overrides in a file, and the records of reading it. A file that cannot be read or
holds no map has none; a path that can name no file is a fault. -/
def load (room : Nat) (path : Text) (content : FileContent) :
    Except Fault (Dict Text × List LogRecord) :=
  match content with
  | .error .nullCharacter => .error (.storage .nullCharacter)
  | .error .unencodable => .error (.storage .unencodable)
  | .error _ => .ok ({}, [])
  | .ok bytes => do
    match ← Document.ofBytes room bytes with
    | none => return ({}, [malformedRecord path])
    | some (.dict entries) =>
      let values := valuesOf entries
      return (← normaliseWithin room values, normaliseRecords values)
    | some _ => return ({}, [])

end Overrides

end Breakpoint
