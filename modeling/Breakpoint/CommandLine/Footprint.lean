import Breakpoint.CommandLine.Transcript

/-!
# The footprint of a command

Which variables a command looks at, which paths it may read or write, and what it changed among
the files. The footprint is wider than need be: looking at a path that is not used does no harm.
-/

namespace Breakpoint.CommandLine

/-- The variables that a command may look at. -/
def variableNames : List Text :=
  [Preferences.colorSchemeVariable, Preferences.reducedMotionVariable,
   Preferences.contrastVariable, LogDirectory.directoryVariable, "XDG_STATE_HOME",
   "XDG_CACHE_HOME", "HOME"] ++ LogDirectory.temporaryVariables

/-- The accounts that a list of lines names, each with its home directory: the first and the
sixth of the fields between colons. Of several lines for an account the first counts. -/
def accountsOf (lines : List String) : Environment :=
  .ofList (lines.reverse.filterMap fun line =>
    match line.splitOn ":" with
    | name :: _ :: _ :: _ :: _ :: home :: _ => some (name, home)
    | _ => none)

/-- The home directory of the account with a number, the third of the fields. -/
def homeOf? (lines : List String) (number : String) : Option Text :=
  lines.findSome? fun line =>
    match line.splitOn ":" with
    | _ :: _ :: other :: _ :: _ :: home :: _ => if other = number then some home else none
    | _ => none

/-- The number of the account that a process runs under, as the lines about the process have it. -/
def accountNumber? (lines : List String) : Option String :=
  lines.findSome? fun line =>
    match line.splitOn "\t" with
    | "Uid:" :: number :: _ => some number
    | _ => none

/-- The directories that may become the directory for the log file. -/
def logDirectories (arguments : Arguments) (machine : Machine) : List Path :=
  match arguments.logDirectory, arguments.log with
  | some (some text), _ => [.parse text]
  | some none, _ | none, false => []
  | none, true =>
    let bases := (LogDirectory.candidates machine).toOption.getD []
    let last := (LogDirectory.temporaryPaths machine).map (·.child "preview-media")
    (bases ++ last).map (·.child LogDirectory.defaultName)

/-- The paths that a command may read or write. -/
def footprint (arguments : Arguments) (machine : Machine) : List Path :=
  let named := [arguments.settings, arguments.overridesFile.join].filterMap id
  let logs := (logDirectories arguments machine).flatMap fun directory =>
    let live := RotatingLog.livePath directory logName machine.files.working
    directory :: live :: (List.range 20).map fun number =>
      RotatingLog.olderPath live (number + 1)
  named.map .parse ++ logs

/-- The files that a command removed. -/
def removals (before after : FileTree) : List Place :=
  before.nodes.filterMap fun (place, _) => if (after.nodeAt? place).isNone then some place else none

/-- The nodes that are new or other than before, the first made first. -/
def changes (before after : FileTree) : List (Place × Node) :=
  after.nodes.reverse.filter fun (place, node) => before.nodeAt? place ≠ some node

end Breakpoint.CommandLine
