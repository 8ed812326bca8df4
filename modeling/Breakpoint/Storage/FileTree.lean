import Breakpoint.Fault
import Breakpoint.Storage.Path

/-!
# Trees of files

Directories and files by their place, the names from the root down. A path is followed name by
name through directories that are there; a name of more than 255 bytes is refused where it is
looked up; a path that no bytes stand for, of more than 4095 bytes or with a null character is
refused at once. Making a directory with those above it keeps what was made when a later step
fails.
-/

namespace Breakpoint

/-- What is found at a place. -/
inductive Node where
  | directory
  | file (bytes : ByteArray)

/-- Files are told apart by their bytes. -/
instance : DecidableEq Node
  | .directory, .directory => isTrue rfl
  | .directory, .file _ => isFalse Node.noConfusion
  | .file _, .directory => isFalse Node.noConfusion
  | .file bytes, .file others =>
    match ByteArray.decEq bytes others with
    | isTrue h => isTrue (congrArg Node.file h)
    | isFalse h => isFalse fun same => h (Node.file.inj same)

/-- A place: the names from the root down. -/
abbrev Place := List Text

/-- A tree of files with a working directory. The root is always a directory. -/
structure FileTree where
  working : Place := []
  nodes : List (Place × Node) := []

namespace FileTree

/-- What is at a place. -/
def nodeAt? (tree : FileTree) (place : Place) : Option Node :=
  if place.isEmpty then some .directory else tree.nodes.lookup place

/-- The tree with a node put at a place. -/
def put (tree : FileTree) (place : Place) (node : Node) : FileTree :=
  { tree with nodes := (place, node) :: tree.nodes.filter (·.1 ≠ place) }

/-- The longest name in bytes. -/
def nameLimit : Nat := 255

/-- The longest text of a path in bytes. -/
def pathLimit : Nat := 4095

/-- How many bytes stand for a code point in a path. The halves of surrogate pairs from U+DC80 to
U+DCFF stand for single bytes that are no text. -/
def pointSize? : CodePoint → Option Nat
  | .char c => some c.utf8Size
  | .surrogate index => if 0x480 ≤ index.val ∧ index.val < 0x500 then some 1 else none

/-- How many bytes stand for a text in a path. -/
def byteSize? (text : Text) : Option Nat := (text.mapM pointSize?).map (·.foldl (· + ·) 0)

/-- Follows names from a place. The last name may lead to nothing. -/
def follow (tree : FileTree) : Place → List Text → Except StorageFault Place
  | place, [] => .ok place
  | place, name :: rest =>
    match tree.nodeAt? place with
    | none => .error .missing
    | some (.file _) => .error .notDirectory
    | some .directory =>
      if nameLimit < (byteSize? name).getD 0 then .error .nameTooLong
      else tree.follow (if name = ".." then place.dropLast else place ++ [name]) rest

/-- The place of a path. -/
def locate (tree : FileTree) (path : Path) : Except StorageFault Place :=
  match byteSize? path.text with
  | none => .error .unencodable
  | some size =>
    if path.text.contains (.char '\x00') then .error .nullCharacter
    else if pathLimit < size then .error .nameTooLong
    else tree.follow (if path.root = .working then tree.working else []) path.names

/-- What is at a path. -/
def lookup (tree : FileTree) (path : Path) : Except StorageFault Node := do
  match tree.nodeAt? (← tree.locate path) with
  | some node => return node
  | none => .error .missing

/-- Whether a path leads to a directory. -/
def isDirectory (tree : FileTree) (path : Path) : Bool :=
  match tree.lookup path with
  | .ok .directory => true
  | _ => false

/-- The bytes of the file at a path. -/
def read (tree : FileTree) (path : Path) : Except StorageFault ByteArray := do
  match ← tree.lookup path with
  | .file bytes => return bytes
  | .directory => .error .isDirectory

/-- The tree with a file written at a path. -/
def write (tree : FileTree) (path : Path) (bytes : ByteArray) : Except StorageFault FileTree := do
  let place ← tree.locate path
  match tree.nodeAt? place with
  | some .directory => .error .isDirectory
  | _ => return tree.put place (.file bytes)

/-- The tree without the file at a path, if there is one. -/
def remove (tree : FileTree) (path : Path) : Except StorageFault FileTree := do
  let place ← tree.locate path
  match tree.nodeAt? place with
  | some .directory => .error .isDirectory
  | _ => return { tree with nodes := tree.nodes.filter (·.1 ≠ place) }

/-- The tree with one directory made. -/
def makeDirectory (tree : FileTree) (path : Path) : Except StorageFault FileTree := do
  let place ← tree.locate path
  match tree.nodeAt? place with
  | some _ => .error .alreadyThere
  | none => return tree.put place .directory

/-- Makes a directory that may be there already, given the outcome of making it and the tree
it was tried in. -/
def allowDirectory (tree : FileTree) (path : Path) :
    Except StorageFault FileTree → Except StorageFault Unit × FileTree
  | .ok made => (.ok (), made)
  | .error fault => if tree.isDirectory path then (.ok (), tree) else (.error fault, tree)

/-- Makes the directory of some names, last name first, and those above it where they are
missing. -/
def makeAll (tree : FileTree) (root : PathRoot) :
    List Text → Except StorageFault Unit × FileTree
  | [] => tree.allowDirectory { root } (tree.makeDirectory { root })
  | last :: above =>
    let path : Path := { root, names := (last :: above).reverse }
    match tree.makeDirectory path with
    | .error .missing =>
      match tree.makeAll root above with
      | (.ok (), tree) => tree.allowDirectory path (tree.makeDirectory path)
      | failed => failed
    | outcome => tree.allowDirectory path outcome

/-- Makes a directory and those above it, as far as they are not there already. -/
def makeDirectories (tree : FileTree) (path : Path) : Except StorageFault Unit × FileTree :=
  tree.makeAll path.root path.names.reverse

/-- The places of all directories below a place, and of all files, seen from there. -/
def below (tree : FileTree) (place : Place) : List (Place × Node) :=
  tree.nodes.filterMap fun (other, node) =>
    if place.isPrefixOf other && place != other then some (other.drop place.length, node)
    else none

end FileTree

end Breakpoint
