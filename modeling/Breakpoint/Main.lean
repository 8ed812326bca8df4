import Std.Time
import Breakpoint.CommandLine.Footprint
import Breakpoint.CommandLine.Usage

/-!
# The command

The outer layer of the command: it looks at the variables and files that the command may need,
lets the command be carried out on them, and brings its lines to the two streams and its changes
to the disk.
-/

namespace Breakpoint

/-- The name of a place on the disk. -/
def diskName (place : Place) : String := "/" ++ Text.toShown (Path.joinNames place)

/-- Notes what is found at a place of the disk. -/
def noteNode (files : FileTree) (place : Place) : IO FileTree := do
  if (files.nodeAt? place).isSome then return files
  let path := (← IO.currentDir) / diskName place
  if ← path.isDir then return files.put place .directory
  try return files.put place (.file (← IO.FS.readBinFile path))
  catch _ => return files

/-- Notes what is found on the way along names from a place, and at its end. -/
def notePath (files : FileTree) (place : Place) : List Text → IO FileTree
  | [] => noteNode files place
  | name :: rest => do
    let files ← noteNode files place
    notePath files (if name = ".." then place.dropLast else place ++ [name]) rest

/-- Notes the whole paths. -/
def notePaths (files : FileTree) (paths : List Path) : IO FileTree :=
  paths.foldlM (fun files path =>
    if path.text.contains (.char '\x00') then return files
    else notePath files (if path.root = .working then files.working else []) path.names) files

/-- The variables of the command that are set. -/
def readVariables : IO Environment := do
  let found ← CommandLine.variableNames.filterMapM fun name => do
    return (← IO.getEnv (Text.toShown name)).map fun value => (name, Text.ofString value)
  return .ofList found

/-- The lines of a file, or none if it cannot be read. -/
def readLines (name : String) : IO (List String) := do
  try return (← IO.FS.lines name).toList
  catch _ => return []

/-- The machine as far as the command may look at it. -/
def readMachine (arguments : CommandLine.Arguments) : IO Machine := do
  let working := (Path.parse (← IO.currentDir).toString).names
  let accounts ← readLines "/etc/passwd"
  let process ← readLines "/proc/self/status"
  let machine : Machine :=
    { environment := ← readVariables
      accounts := CommandLine.accountsOf accounts
      ownHome := (CommandLine.accountNumber? process).bind (CommandLine.homeOf? accounts)
      files := { working } }
  let machine := { machine with files := ← notePath machine.files [] working }
  let temporary ← notePaths machine.files (LogDirectory.temporaryPaths machine)
  return { machine with
    files := ← notePaths temporary (CommandLine.footprint arguments machine) }

/-- Brings a change to the disk. -/
def writeNode (place : Place) (node : Node) : IO Unit :=
  match node with
  | .directory => IO.FS.createDirAll (diskName place)
  | .file bytes => IO.FS.writeBinFile (diskName place) bytes

/-- The time in the form of log lines. -/
def readClock : IO String := do
  return (← Std.Time.PlainDateTime.now).format "uuuu-MM-dd HH:mm:ss,SSS"

/-- Prints lines to the output stream. -/
def printLines (lines : List Text) : IO Unit :=
  lines.forM fun line => IO.println (Text.toShown line)

/-- Prints lines to the error stream. -/
def printErrors (lines : List Text) : IO Unit :=
  lines.forM fun line => IO.eprintln (Text.toShown line)

/-- Carries out a command and returns its exit code. -/
def runCommand (arguments : CommandLine.Arguments) : IO UInt32 := do
  let machine ← readMachine arguments
  let stamp ← readClock
  let report := CommandLine.carryOut machine stamp arguments
  for place in CommandLine.removals machine.files report.files do
    IO.FS.removeFile (diskName place)
  for (place, node) in CommandLine.changes machine.files report.files do
    writeNode place node
  printLines report.lines
  for record in report.records do
    IO.eprint (Text.toShown (CommandLine.logLine stamp record))
  match report.fault with
  | none => return 0
  | some fault =>
    printErrors [CommandLine.programName ++ ": " ++ fault.text]
    return 1

end Breakpoint

/-- The program. -/
def main (arguments : List String) : IO UInt32 :=
  match Breakpoint.CommandLine.parseArguments (arguments.map Breakpoint.Text.ofString) with
  | .ok parsed => Breakpoint.runCommand parsed
  | .error .help => do
    Breakpoint.printLines Breakpoint.CommandLine.helpLines
    return 0
  | .error (.usage fault) => do
    Breakpoint.printErrors (Breakpoint.CommandLine.usageLines ++ [fault.message])
    return 2
