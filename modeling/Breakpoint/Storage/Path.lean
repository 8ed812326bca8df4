import Breakpoint.Text

/-!
# Paths

A path is a list of names under a root or under the working directory. Names that stand for
the directory they are in, and empty names between slashes, are left out; names that stand for
the directory above are kept, since they mean something only once the path is followed. Two
slashes at the start, and no more than two, are a root of their own.
-/

namespace Breakpoint

/-- Where a path starts. -/
inductive PathRoot where
  | working
  | slash
  | doubleSlash
  deriving DecidableEq, Repr

/-- A path. -/
structure Path where
  root : PathRoot := .working
  names : List Text := []
  deriving DecidableEq, Repr

namespace Path

/-- The text cut at each slash. -/
def cutSlashes (current : Text) : Text → List Text
  | [] => [current.reverse]
  | .char '/' :: rest => current.reverse :: cutSlashes [] rest
  | c :: rest => cutSlashes (c :: current) rest

/-- The path that a text writes. -/
def parse (text : Text) : Path :=
  let slashes := (text.takeWhile (· == .char '/')).length
  { root := if slashes = 0 then .working else if slashes = 2 then .doubleSlash else .slash
    names := (cutSlashes [] text).filter fun name => !name.isEmpty && name != [.char '.'] }

/-- The path of a second one seen from the first; a second one with a root stands alone. -/
def join (base other : Path) : Path :=
  if other.root = .working then { base with names := base.names ++ other.names } else other

/-- The path of a text seen from another path. -/
def child (base : Path) (text : Text) : Path := base.join (parse text)

/-- Names with each that stands for the directory above taken together with the one before
it. -/
def collapse (names : List Text) : List Text :=
  names.foldl (fun (names : List Text) (name : Text) =>
    if name = ".." then names.dropLast else names ++ [name]) []

/-- The path from the root, seen from a working directory, without names for the directory
above. -/
def absolute (path : Path) (working : List Text) : Path :=
  let whole := join { root := .slash, names := working } path
  { whole with names := collapse whole.names }

/-- Names with slashes between them. -/
def joinNames (names : List Text) : Text := List.intercalate "/" names

/-- The text of a path; the working directory itself is a point. -/
def text (path : Path) : Text :=
  match path.root with
  | .working => if path.names.isEmpty then "." else joinNames path.names
  | .slash => "/" ++ joinNames path.names
  | .doubleSlash => "//" ++ joinNames path.names

end Path

end Breakpoint
