import Breakpoint.Preferences
import Breakpoint.Storage.FileTree

/-!
# The directory for logs

Logs go to the first directory of a list that is there or can be made: the one of a variable,
then those for the state and the caches of the user, then one in the working directory. The
last resort is the directory for temporary files, and it has to work. A home directory that is not
known, or a working directory that was removed, is found out before any of them is tried.
-/

namespace Breakpoint

/-- What a program finds around it: its variables, the accounts of the machine with their home
directories, that of the account it runs under, the files, and the room on the stack. -/
structure Machine where
  environment : Environment := {}
  accounts : Environment := {}
  ownHome : Option Text := none
  files : FileTree := {}
  room : Nat := usualRoom

namespace LogDirectory

/-- The variable with a directory for logs. -/
def directoryVariable : Text := "PREVIEW_MEDIA_LOG_DIR"

/-- The directory name of this library's logs. -/
def defaultName : Text := "PreviewMedia"

/-- A text without the slashes at its end, or one slash if nothing else is left. -/
def withoutLastSlashes (text : Text) : Text :=
  let rest := Text.dropTrailing (· == .char '/') text
  if rest.isEmpty then "/" else rest

/-- The home directory that a first name with a tilde means: without an account the user's own, of
the variable or else of the account that the program runs under, and else that of the account. -/
def homeText? (machine : Machine) (tilde : Text) : Option Text :=
  match tilde with
  | [.char '~'] => (machine.environment.get? "HOME").or machine.ownHome
  | .char '~' :: account => machine.accounts.get? account
  | _ => none

/-- A path with the tilde of its first name expanded. -/
def expandHome (machine : Machine) (path : Path) : Except Fault Path :=
  match path.root, path.names with
  | .working, first :: rest =>
    if first.head? = some (.char '~') then
      match (homeText? machine first).map withoutLastSlashes with
      | some home =>
        if home.head? = some (.char '~') then
          .error (.raised "Could not determine home directory.")
        else .ok ((Path.parse home).join { names := rest })
      | none => .error (.raised "Could not determine home directory.")
    else .ok path
  | _, _ => .ok path

/-- The home directory of the user. -/
def home (machine : Machine) : Except Fault Path := expandHome machine { names := ["~"] }

/-- The working directory, unless it was removed. -/
def workingDirectory (machine : Machine) : Except Fault Path :=
  match machine.files.nodeAt? machine.files.working with
  | some .directory => .ok { root := .slash, names := machine.files.working }
  | _ => .error (.storage .missing)

/-- The directory of a variable, or one below the home directory. -/
def userDirectory (environment : Environment) (variableName : Text) (home : Path)
    (below : List Text) : Path :=
  match environment.get? variableName with
  | some value => .parse value
  | none => home.join { names := below }

/-- The directories that logs may go to, the best first. -/
def candidates (machine : Machine) : Except Fault (List Path) := do
  let environment := machine.environment
  let chosen ←
    match environment.get? directoryVariable with
    | some value =>
      if value.isEmpty then pure [] else pure [← expandHome machine (.parse value)]
    | none => pure []
  let home ← home machine
  let working ← workingDirectory machine
  let own : Path := { names := ["preview-media", "logs"] }
  return chosen ++
    [(userDirectory environment "XDG_STATE_HOME" home [".local", "state"]).join own,
     (userDirectory environment "XDG_CACHE_HOME" home [".cache"]).join own,
     working.join { names := ["logs"] }]

/-- The variables with a directory for temporary files, the best first. -/
def temporaryVariables : List Text := ["TMPDIR", "TEMP", "TMP"]

/-- The usual directories for temporary files, the best first. -/
def usualTemporary : List Text := ["/tmp", "/var/tmp", "/usr/tmp"]

/-- The directories that temporary files may go to, the best first. A point alone stays the
working directory. -/
def temporaryPaths (machine : Machine) : List Path :=
  let { environment, files, .. } := machine
  let named := temporaryVariables.filterMap fun name =>
    (environment.get? name).filter fun value => !value.isEmpty
  let absolute (text : Text) : Path :=
    if text = "." then {} else (Path.parse text).absolute files.working
  (named ++ usualTemporary).map absolute ++ [{ root := .slash, names := files.working }]

/-- The directory for temporary files: the first that is there. -/
def temporary (machine : Machine) : Except Fault Path :=
  match (temporaryPaths machine).find? machine.files.isDirectory with
  | some path => .ok path
  | none => .error (.storage .missing)

/-- Whether a fault passes a directory over. A path that can name no directory at all is a fault
of the whole search. -/
def isPassedOver : StorageFault → Bool
  | .nullCharacter | .unencodable => false
  | .missing | .isDirectory | .notDirectory | .alreadyThere | .nameTooLong => true

/-- The first of several directories that is there or can be made. -/
def firstMade (files : FileTree) : List Path → Except StorageFault (Option Path) × FileTree
  | [] => (.ok none, files)
  | path :: rest =>
    match files.makeDirectories path with
    | (.ok (), files) => (.ok (some path), files)
    | (.error fault, files) =>
      if isPassedOver fault then firstMade files rest else (.error fault, files)

/-- The directory for the logs of a name, made if need be, and the files after that. -/
def resolve (machine : Machine) (name : Text) : Except Fault (Path × FileTree) := do
  let bases ← candidates machine
  match firstMade machine.files (bases.map (·.child name)) with
  | (.ok (some path), files) => return (path, files)
  | (.error fault, _) => .error (.storage fault)
  | (.ok none, files) =>
    let base ← temporary { machine with files }
    let path := (base.child "preview-media").child name
    match files.makeDirectories path with
    | (.ok (), files) => return (path, files)
    | (.error fault, _) => .error (.storage fault)

end LogDirectory

end Breakpoint
