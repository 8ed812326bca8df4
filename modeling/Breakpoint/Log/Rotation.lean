import Breakpoint.Decimal.Reading
import Breakpoint.Fault
import Breakpoint.Storage.FileTree

/-!
# Rotating logs

A rotating log writes to one file. When a line would bring the file to its limit or beyond, the
file becomes the first of the older ones, which move up by one, and the line starts a new file.
The size of a file counts bytes, the length of a line counts code points. A log that keeps no
older files goes on in the same file.

Older files are told apart by numbers. A number may be free, and the file below it then moves up
into it. When a file would have to move to a number that no file name has room for, nothing
moves, and the line is lost. A line that has no bytes is lost too, but may have made the files
move.
-/

namespace Breakpoint

/-- A rotating log: its limit, how many older files it keeps, how many numbers there are names
for, what is in the live file, and what is in the older files, by number from one on. -/
structure RotatingLog where
  limit : Int
  backups : Nat
  reach : Nat := backups
  live : ByteArray := .empty
  older : List (Option ByteArray) := []

namespace RotatingLog

/-- How many older files a log keeps that is to keep `retention` files; the live one is always
kept. -/
def backupsFor (retention : Int) : Nat := (max 1 retention - 1).toNat

/-- The limit of logs that are given none. -/
def defaultLimit : Int := 512 * 1024

/-- How many older files a log may have. -/
def room (log : RotatingLog) : Nat := min log.backups log.reach

/-- The older files from some number on after each has moved up by one, what comes in to the
first of `room` numbers given. The last keeps its file if nothing comes in to it. -/
def moveUp (incoming : Option ByteArray) : Nat → List (Option ByteArray) → List (Option ByteArray)
  | 0, older => older
  | 1, older => [incoming.or older.head?.join]
  | _ + 2, [] => [incoming]
  | room + 2, file :: rest => incoming :: moveUp file (room + 1) rest

/-- What is in the file of a number, zero being the live one. -/
def file? (log : RotatingLog) : Nat → Option ByteArray
  | 0 => some log.live
  | number + 1 => log.older[number]?.join

/-- Whether a file stands at the last number that there is a name for and has to move on. -/
def isStuck (log : RotatingLog) : Bool :=
  log.reach < log.backups && (log.file? log.reach).isSome

/-- Moves the live file to the older ones, if they are kept; nothing if a file is stuck. -/
def roll (log : RotatingLog) : Option RotatingLog :=
  if log.backups = 0 then some log
  else if log.isStuck then none
  else some { log with
    live := .empty
    older := moveUp (some log.live) log.room log.older }

/-- Whether a line brings the live file to its limit. -/
def isFull (log : RotatingLog) (line : Text) : Bool :=
  0 < log.limit && log.limit ≤ log.live.size + line.length

/-- Adds a line to the live file, if it has bytes. -/
def append (log : RotatingLog) (line : Text) : RotatingLog :=
  match Text.utf8? line with
  | some bytes => { log with live := log.live ++ bytes }
  | none => log

/-- Writes a line, which ends in a line feed. -/
def write (log : RotatingLog) (line : Text) : RotatingLog :=
  if log.isFull line then
    match log.roll with
    | some rolled => rolled.append line
    | none => log
  else log.append line

/-- Writes lines. -/
def writeAll (log : RotatingLog) (lines : List Text) : RotatingLog := lines.foldl write log

/-- What is in the files, in the order in which it was written. -/
def contents (log : RotatingLog) : List ByteArray :=
  log.older.reverse.filterMap id ++ [log.live]

/-- A line is added to the live file alone. -/
theorem older_append (log : RotatingLog) (line : Text) : (log.append line).older = log.older := by
  unfold append
  split <;> rfl

/-! ## Logs in files -/

/-- The path of the live file of a log. -/
def livePath (directory : Path) (name : Text) (working : Place) : Path :=
  (directory.child name).absolute working

/-- The name of an older file. -/
def olderName (name : Text) (number : Nat) : Text := name ++ "." ++ toString number

/-- The path of an older file. -/
def olderPath (path : Path) (number : Nat) : Path :=
  match path.names.reverse with
  | last :: above => { path with names := (olderName last number :: above).reverse }
  | [] => path

/-- The number of an older file by its name and that of the live one. -/
def olderNumber? (live name : Text) : Option Nat :=
  let number := Decimal.digitsValue (name.drop (live.length + 1))
  if name = olderName live number then some number else none

/-- The older files that stand beside the live file at a place, by their numbers. -/
def olderAt (files : FileTree) (place : Place) : List (Nat × ByteArray) :=
  files.nodes.filterMap fun (other, node) =>
    match node, place.getLast?, other.getLast? with
    | .file bytes, some live, some name =>
      if other.dropLast = place.dropLast then (olderNumber? live name).map (·, bytes) else none
    | _, _, _ => none

/-- The first numbers, each with the file that stands there. -/
def byNumber (found : List (Nat × ByteArray)) : List (Option ByteArray) :=
  (List.range ((found.map (·.1)).foldl max 0)).map fun index => found.lookup (index + 1)

/-- How many numbers there are names for beside a path. -/
def reachOf (path : Path) : Nat :=
  let size (text : Text) := (FileTree.byteSize? text).getD 0
  let digits := min (FileTree.nameLimit - (size (path.names.getLast?.getD []) + 1))
    (FileTree.pathLimit - (size path.text + 1))
  Nat.pow 10 digits - 1

/-- The log of a path whose live file holds some bytes. -/
def ofFiles (files : FileTree) (path : Path) (retention limit : Int) (live : ByteArray) :
    RotatingLog :=
  let backups := backupsFor retention
  let place := (files.locate path).toOption.getD []
  { limit, backups, live
    reach := reachOf path
    older := byNumber ((olderAt files place).filter fun (number, _) => number ≤ backups) }

/-- Opens the log of a path and makes its live file. -/
def openAt (files : FileTree) (path : Path) (retention limit : Int) :
    Except StorageFault (RotatingLog × FileTree) :=
  match files.read path with
  | .ok bytes => .ok (ofFiles files path retention limit bytes, files)
  | .error .missing => do
    return (ofFiles files path retention limit .empty, ← files.write path .empty)
  | .error fault => .error fault

/-- Writes the older files of a log from some number on, and removes those whose number is
free. -/
def saveOlder (path : Path) (number : Nat) :
    List (Option ByteArray) → FileTree → Except StorageFault FileTree
  | [], files => .ok files
  | file :: rest, files => do
    let files ← match file with
      | some bytes => files.write (olderPath path number) bytes
      | none => files.remove (olderPath path number)
    saveOlder path (number + 1) rest files

/-- Writes the files of a log. -/
def save (log : RotatingLog) (path : Path) (files : FileTree) :
    Except StorageFault FileTree := do
  saveOlder path 1 log.older (← files.write path log.live)

end RotatingLog

end Breakpoint
