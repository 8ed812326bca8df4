import Breakpoint.Log.Directory
import Breakpoint.Proofs.Storage.Directories

/-!
# The directory that logs go to

The search takes the first directory that is there or can be made, and passes over the others, which
leave no more than directories behind. It ends without any directory only where the home directory
is not known, the working directory was removed, a path can name nothing, or not even the directory
for temporary files can be used.
-/

namespace Breakpoint.LogDirectory

open FileTree

/-! ## Home directories -/

/-- The directory of the variable, if it is set and not empty. -/
def chosen (machine : Machine) : Except Fault (List Path) :=
  match machine.environment.get? directoryVariable with
  | some value =>
    if value.isEmpty then .ok []
    else (expandHome machine (.parse value)).map ([·])
  | none => .ok []

/-- The directories that come after the chosen one, given the home and the working directory. -/
def usual (machine : Machine) (home working : Path) : List Path :=
  let own : Path := { names := ["preview-media", "logs"] }
  [(userDirectory machine.environment "XDG_STATE_HOME" home [".local", "state"]).join own,
   (userDirectory machine.environment "XDG_CACHE_HOME" home [".cache"]).join own,
   working.join { names := ["logs"] }]

/-- A path that the search passes over: it could name a directory, but cannot hold one. -/
def IsPassed (files : FileTree) (path : Path) : Prop := path.IsNameable ∧ ¬ files.CanHold path

/-- A path comes after none but such as are passed over. -/
def IsReached (files : FileTree) (paths : List Path) (path : Path) : Prop :=
  ∃ passed rest, paths = passed ++ path :: rest ∧ ∀ other ∈ passed, IsPassed files other

variable {files after : FileTree} {paths : List Path} {path : Path}

/-- More directories let nothing be passed over that was not before. -/
theorem IsPassed.of_extends (h : IsPassed after path) (hextends : files.Extends after) :
    IsPassed files path :=
  ⟨h.1, fun hholds => h.2 ((hextends.canHold_iff path).2 hholds)⟩

/-- What is reached with more directories is reached without them. -/
theorem IsReached.of_extends (h : IsReached after paths path) (hextends : files.Extends after) :
    IsReached files paths path := by
  obtain ⟨passed, rest, hpaths, hall⟩ := h
  exact ⟨passed, rest, hpaths, fun other hother => (hall other hother).of_extends hextends⟩

/-- What is reached is reached with more paths after it. -/
theorem IsReached.append (h : IsReached files paths path) (more : List Path) :
    IsReached files (paths ++ more) path := by
  obtain ⟨passed, rest, rfl, hall⟩ := h
  exact ⟨passed, rest ++ more, by rw [List.append_assoc, List.cons_append], hall⟩

/-- The first path is reached. -/
theorem IsReached.head (files : FileTree) (path : Path) (rest : List Path) :
    IsReached files (path :: rest) path := ⟨[], rest, rfl, nofun⟩

/-- A path that is passed over is in the way of no other. -/
theorem IsReached.cons {other : Path} (hpassed : IsPassed files path)
    (h : IsReached files paths other) : IsReached files (path :: paths) other := by
  obtain ⟨passed, rest, rfl, hall⟩ := h
  exact ⟨path :: passed, rest, rfl, List.forall_mem_cons.2 ⟨hpassed, hall⟩⟩

/-- What the search through some paths comes to. -/
inductive Searches (files : FileTree) (paths : List Path) :
    Except StorageFault (Option Path) → FileTree → Prop
  | found {path : Path} {after : FileTree} (hreached : IsReached files paths path)
    (hholds : files.CanHold path) (hdirectory : after.isDirectory path = true) :
    Searches files paths (.ok (some path)) after
  | exhausted {after : FileTree} (hpassed : ∀ path ∈ paths, IsPassed files path) :
    Searches files paths (.ok none) after
  | refused {path : Path} {fault : StorageFault} {after : FileTree}
    (hreached : IsReached files paths path) (hrefused : ¬ path.IsNameable) :
    Searches files paths (.error fault) after

/-- One more path that is passed over changes nothing. -/
theorem Searches.cons {middle : FileTree} {outcome : Except StorageFault (Option Path)}
    (hpassed : IsPassed files path) (hextends : files.Extends middle)
    (h : Searches middle paths outcome after) : Searches files (path :: paths) outcome after := by
  cases h with
  | found hreached hholds hdirectory =>
    exact .found ((hreached.of_extends hextends).cons hpassed) ((hextends.canHold_iff _).1 hholds)
      hdirectory
  | exhausted hall =>
    refine .exhausted (List.forall_mem_cons.2 ⟨hpassed, fun other hother => ?_⟩)
    exact (hall other hother).of_extends hextends
  | refused hreached hrefused =>
    exact .refused ((hreached.of_extends hextends).cons hpassed) hrefused

variable {machine : Machine} {name : Text} {bases : List Path} {left : FileTree}

end Breakpoint.LogDirectory
