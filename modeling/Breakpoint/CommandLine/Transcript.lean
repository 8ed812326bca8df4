import Breakpoint.CommandLine.Arguments
import Breakpoint.Engine.Operations
import Breakpoint.Log.Directory
import Breakpoint.Log.Rotation
import Breakpoint.Settings

/-!
# The transcript of a command

A command asks its queries at the first size, one line each, and then goes through the further
sizes and prints the answers that change. Its records go to the error stream and, if asked for,
to a rotating log. A fault ends the command; what was printed and recorded before it stays.
-/

namespace Breakpoint.CommandLine

/-- Runs an operation for a host that only listens: its outcome, the events it was told, and
the engine after it. -/
def listen {α : Type} (operation : Engine.Act α) (engine : Engine) :
    Except Fault α × List ChangeEvent × Engine :=
  let (callbacks, outcome, engine) := (operation engine).settle (.ok ())
  let events := callbacks.filterMap fun callback =>
    match callback with
    | .notify _ _ event => some event
    | .deliver .. => none
  (outcome, events, engine)

/-- The words for an answer. -/
def answerText (isMatch : Bool) : Text := if isMatch then "match" else "no match"

/-- The heading of a size. -/
def sizeLine (size : Extent × Extent) : Text :=
  "viewport " ++ shortText size.1.value ++ "x" ++ shortText size.2.value

/-- The line of a query and the words about it. -/
def queryLine (media words : Text) : Text := "  " ++ media ++ ": " ++ words

/-- The words about a new handle. -/
def handleText (handle : Handle) : Text :=
  if handle.query.isNone then "unsupported" else answerText handle.isMatch

/-- The one listener of a command. -/
def changesListener : Listener := .named "changes"

/-- A part of a transcript: its lines, the engine after it, and the fault that ends the whole if
there is one. -/
structure Part where
  lines : List Text := []
  engine : Engine
  fault : Option Fault := none

/-- A part followed by a further one, unless a fault has ended it. -/
def Part.next (part : Part) (further : Engine → Part) : Part :=
  match part.fault with
  | some _ => part
  | none => { further part.engine with lines := part.lines ++ (further part.engine).lines }

/-- Asks one query. -/
def ask (query : Text) (engine : Engine) : Part :=
  match listen (Engine.matchMedia (.text query)) engine with
  | (.error fault, _, engine) => { engine, fault }
  | (.ok number, _, engine) =>
    let words := ((engine.handle? number).map handleText).getD []
    let (_, _, engine) := listen (Engine.addListener number (some changesListener)) engine
    { engine, lines := [queryLine query words] }

/-- Asks the queries, one line each. -/
def askAll : List Text → Engine → Part
  | [], engine => { engine }
  | query :: rest, engine => (ask query engine).next (askAll rest)

/-- The lines of the changes at one size. -/
def changeLines (events : List ChangeEvent) : List Text :=
  if events.isEmpty then ["  no changes"]
  else events.map fun event => queryLine event.media (answerText event.isMatch)

/-- Goes to a further size and tells its changes. -/
def visit (size : Extent × Extent) (engine : Engine) : Part :=
  let (_, _, engine) := listen (Engine.setSize size.1 size.2) engine
  match listen (Engine.flush none) engine with
  | (.error fault, _, engine) => { engine, fault }
  | (.ok _, events, engine) => { engine, lines := sizeLine size :: changeLines events }

/-- Goes through further sizes, up to one that was left blank. -/
def replay : List (Option (Extent × Extent)) → Engine → Part
  | [], engine => { engine }
  | none :: _, engine => { engine, fault := some .unreadable }
  | some size :: rest, engine => (visit size engine).next (replay rest)

/-- The end of a transcript. -/
def close (engine : Engine) : Part :=
  let (_, _, engine) := listen Engine.destroy engine
  { engine }

/-- The overrides of a command: those of the file, then those of the arguments, none of which
may be blank. -/
def mergeOverrides (file : Dict Text) (arguments : List (Option (Text × Text))) :
    Except Fault (Dict Text) :=
  match arguments.mapM id with
  | some pairs => .ok (file.insertAll (Dict.ofList pairs).entries)
  | none => .error .unreadable

/-- The engine of a command at its first size. -/
def engineFor (settings : Settings) (overrides : Dict Text) (host : Preferences) (room : Nat)
    (size : Extent × Extent) : Engine :=
  .create
    { width := size.1
      height := size.2
      frameInterval := settings.frameInterval
      followUps := .atMost settings.followUpLimit
      settingsOverrides := Overrides.toValues settings.overrides
      overrides := Overrides.toValues overrides
      host := .known host
      room }

/-- What a command prints and records, and the fault that ends it if there is one. -/
structure Transcript where
  lines : List Text := []
  records : List LogRecord := []
  fault : Option Fault := none

/-- The transcript of a command for its first size and the further ones. -/
def transcript (settings : Settings) (overrides : Dict Text) (host : Preferences) (room : Nat)
    (first : Extent × Extent) (further : List (Option (Extent × Extent)))
    (queries : List Text) : Transcript :=
  let start : Part :=
    { lines := [sizeLine first], engine := engineFor settings overrides host room first }
  let { lines, engine, fault } := ((start.next (askAll queries)).next (replay further)).next close
  { lines, records := engine.records, fault }

/-- The overrides in the file that the arguments name, and the records of reading it. -/
def fileOverrides (arguments : Arguments) (machine : Machine) :
    Except Fault (Dict Text × List LogRecord) :=
  match arguments.overridesFile with
  | none => .ok ({}, [])
  | some none => .error .noPath
  | some (some path) =>
    Overrides.load machine.room (Path.parse path).text (machine.files.read (.parse path))

/-- The transcript of a command with its files. -/
def answerQueries (arguments : Arguments) (machine : Machine) (settings : Settings) : Transcript :=
  match fileOverrides arguments machine with
  | .error fault => { fault }
  | .ok (file, records) =>
    match mergeOverrides file arguments.overrides, arguments.sizes with
    | .error fault, _ => { records, fault }
    | .ok overrides, some first :: further =>
      let host := Preferences.detect machine.environment
      let told := transcript settings overrides host machine.room first further arguments.queries
      { told with records := records ++ told.records }
    | .ok _, _ => { records, fault := some .unreadable }

/-- What a command leaves behind: the lines it printed, the records it showed, the files, and
the fault it ended with if there is one. -/
structure Report where
  lines : List Text := []
  records : List LogRecord := []
  files : FileTree
  fault : Option Fault := none

/-- The name of the log file. -/
def logName : Text := "preview-media.log"

/-- A record as a line of the log file, after the time. -/
def logLine (stamp : Text) (record : LogRecord) : Text := stamp ++ " " ++ record.line ++ "\n"

/-- The settings that the arguments ask for. -/
def settingsFor (arguments : Arguments) (machine : Machine) : Except Fault Settings :=
  match arguments.settings with
  | some path => Settings.load machine.room (machine.files.read (.parse path))
  | none => .ok {}

/-- The directory for the log file, if the arguments ask for one, and the files after it was
looked for. -/
def logDirectoryFor (arguments : Arguments) (machine : Machine) :
    Except Fault (Option Path × FileTree) :=
  match arguments.logDirectory, arguments.log with
  | some (some path), _ => .ok (some (.parse path), machine.files)
  | some none, _ => .error .noPath
  | none, true => do
    let (path, files) ← LogDirectory.resolve machine LogDirectory.defaultName
    return (some path, files)
  | none, false => .ok (none, machine.files)

/-- Opens the log file of a directory, which is made if need be. -/
def openLog (files : FileTree) (directory : Path) (retention : Int) :
    Except Fault (Path × RotatingLog) × FileTree :=
  match files.makeDirectories directory with
  | (.error fault, files) => (.error (.storage fault), files)
  | (.ok (), files) =>
    let path := RotatingLog.livePath directory logName files.working
    match RotatingLog.openAt files path retention RotatingLog.defaultLimit with
    | .error fault => (.error (.storage fault), files)
    | .ok (log, files) => (.ok (path, log), files)

/-- Carries out a command. The log file takes the records at the time of `stamp`. -/
def carryOut (machine : Machine) (stamp : Text) (arguments : Arguments) : Report :=
  let found : Except Fault (Settings × Option Path × FileTree) := do
    let settings ← settingsFor arguments machine
    return (settings, ← logDirectoryFor arguments machine)
  match found with
  | .error fault => { files := machine.files, fault }
  | .ok (settings, directory, files) =>
    let answer (files : FileTree) : Report :=
      let { lines, records, fault } := answerQueries arguments { machine with files } settings
      { lines, records := shownRecords records arguments.verbose, files, fault }
    match directory with
    | none => answer files
    | some directory =>
      match openLog files directory settings.logRetention with
      | (.error fault, files) => { files, fault }
      | (.ok (path, log), files) =>
        let report := answer files
        let written := log.writeAll (report.records.map (logLine stamp))
        match written.save path report.files with
        | .ok files => { report with files }
        | .error fault => { report with fault := some (.storage fault) }

end Breakpoint.CommandLine
