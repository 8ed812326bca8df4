import Breakpoint.Overrides
import Breakpoint.Text.Lower
import Breakpoint.Value.Number

/-!
# Settings

The settings of a preview and their file. A number that is missing or cannot be read takes its
default, and one out of bounds takes the bound. The names and values of overrides are trimmed,
and the names are put in lower case.
-/

namespace Breakpoint

/-- The settings of a preview. -/
structure Settings where
  frameInterval : Int := 16
  followUpLimit : Int := 8
  logRetention : Int := 5
  overrides : Dict Text := {}

namespace Settings

/-- The number nearest to `value` between two bounds. -/
def clamp (least greatest value : Int) : Int := max least (min greatest value)

/-- A clamped number is between its bounds. -/
theorem clamp_mem {least greatest : Int} (h : least ≤ greatest) (value : Int) :
    least ≤ clamp least greatest value ∧ clamp least greatest value ≤ greatest := by
  unfold clamp
  omega

/-- The number that a field of the file means. Only a number beyond all bounds is a fault. -/
def number (fallback least greatest : Int) : Option Value → Except Fault Int
  | none | some .null | some (.bool _) => .ok fallback
  | some value =>
    match value.toInt with
    | .ok number => .ok (clamp least greatest number)
    | .error .outOfRange => .error .outOfRange
    | .error _ => .ok fallback

/-- The overrides that a field of the file means. -/
def overridesOf : Option Value → Dict Text
  | some (.dict entries) =>
    .ofList (entries.filterMap fun entry =>
      match entry.2 with
      | .null => none
      | value => some (Text.lower (Text.trim entry.1), Text.trim value.display))
  | _ => {}

/-- The overrides that a field of the file means, unless one of its values has no text. -/
def overridesWithin (room : Nat) : Option Value → Except Fault (Dict Text)
  | some (.dict entries) =>
    match Value.entriesFault? room entries with
    | some fault => .error fault
    | none => .ok (overridesOf (some (.dict entries)))
  | _ => .ok {}

/-- The settings that the entries of a document mean. -/
def ofEntries (room : Nat) (entries : List (Text × Value)) : Except Fault Settings := do
  let field := (Dict.mk entries).get?
  let defaults : Settings := {}
  return {
    frameInterval := ← number defaults.frameInterval 1 1000 (field "frame_interval_ms")
    followUpLimit := ← number defaults.followUpLimit 1 64 (field "max_follow_up_sweeps")
    logRetention := ← number defaults.logRetention 1 20 (field "log_retention")
    overrides := ← overridesWithin room (field "overrides") }

/-- The settings in a file. A file that cannot be read or holds no map means the defaults;
a path that can name no file is a fault. -/
def load (room : Nat) (content : FileContent) : Except Fault Settings :=
  match content with
  | .error .nullCharacter => .error (.storage .nullCharacter)
  | .error .unencodable => .error (.storage .unencodable)
  | .error _ => .ok {}
  | .ok bytes => do
    match ← Document.ofBytes room bytes with
    | some (.dict entries) => ofEntries room entries
    | _ => return {}

/-- The words that turn a switch on. -/
def onWords : List Text := ["1", "true", "yes", "on"]

/-- The words that turn a switch off. -/
def offWords : List Text := ["0", "false", "no", "off"]

/-- The variable that tells a development build. -/
def developmentVariable : Text := "PREVIEW_MEDIA_DEV_MODE"

/-- Whether a word, or without one the environment, tells a development build. -/
def isDevelopmentBuild (word : Option Text) (environment : Dict Text) : Bool :=
  match word.or (environment.get? developmentVariable) with
  | some value => onWords.contains (Text.lower (Text.trim value))
  | none => false

end Settings

/-- The level from which on loggers write, as a number: ten with debug records, else twenty. -/
def levelNumber (debug : Bool) : Nat := if debug then 10 else 20

/-- The variable that keeps records from the loggers above. -/
def propagationVariable : Text := "PREVIEW_MEDIA_PROPAGATE_LOGS"

/-- Whether records go on to the loggers above. -/
def propagates (environment : Dict Text) : Bool :=
  match environment.get? propagationVariable with
  | some value => !Settings.offWords.contains (Text.lower (Text.trim value))
  | none => true

end Breakpoint
