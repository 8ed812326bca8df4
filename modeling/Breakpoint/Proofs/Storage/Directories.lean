import Breakpoint.Storage.FileTree

/-!
# Where directories can be made

A directory can be made at a path unless the path or one of its names is too long, or a file stands
where some of the first names lead. Making one only puts directories where nothing stood, also when
it fails halfway, so one attempt neither helps nor hinders another.
-/

namespace Breakpoint

/-! ## Paths with bytes -/

namespace FileTree

/-- The bytes of the first code points stand for them. -/
theorem byteSize?_of_prefix {first whole : Text} (h : first <+: whole) {size : Nat}
    (hsize : byteSize? whole = some size) : ∃ fewer ≤ size, byteSize? first = some fewer := by
  obtain ⟨rest, rfl⟩ := h
  rw [byteSize?, List.mapM_append] at hsize
  cases hfirst : first.mapM pointSize? with
  | none => simp [hfirst] at hsize
  | some sizes =>
    cases hrest : rest.mapM pointSize? with
    | none => simp [hfirst, hrest] at hsize
    | some more =>
      simp only [hfirst, hrest, bind, Option.bind, pure, Option.map_some,
        Option.some.injEq] at hsize
      refine ⟨sizes.sum, ?_, ?_⟩
      · rw [← hsize, ← List.sum_eq_foldl, List.sum_append]
        exact Nat.le_add_right _ _
      · rw [byteSize?, hfirst, Option.map_some, List.sum_eq_foldl]

end FileTree

namespace Path

/-- Bytes stand for the text of the path, and it has no null character. -/
structure IsNameable (path : Path) : Prop where
  encodable : ∃ size, FileTree.byteSize? path.text = some size
  noNull : path.text.contains (.char '\x00') = false

/-- The text of some names begins that of more. -/
theorem joinNames_begins (names : List Text) (last : Text) :
    joinNames names <+: joinNames (names ++ [last]) := by
  induction names with
  | nil => exact List.nil_prefix
  | cons name rest ih =>
    cases rest with
    | nil =>
      rw [joinNames, joinNames, List.intercalate_singleton, List.singleton_append,
        List.intercalate_cons_cons]
      exact ⟨_, by rw [List.append_assoc]⟩
    | cons next more =>
      rw [joinNames, List.intercalate_cons_cons, joinNames, List.cons_append, List.cons_append,
        List.intercalate_cons_cons]
      exact (List.prefix_append_right_inj _).2 ih

/-- The text of a path begins with that of its first names, unless that is a point. -/
theorem text_above (root : PathRoot) (names : List Text) (last : Text) :
    ({ root, names } : Path).text = "." ∨
      ({ root, names } : Path).text <+: ({ root, names := names ++ [last] } : Path).text := by
  cases root with
  | working =>
    cases names with
    | nil => exact .inl rfl
    | cons name rest => exact .inr (joinNames_begins (name :: rest) last)
  | slash => exact .inr ((List.prefix_append_right_inj _).2 (joinNames_begins names last))
  | doubleSlash => exact .inr ((List.prefix_append_right_inj _).2 (joinNames_begins names last))

/-- A path that can be named and is not too long. -/
structure IsFollowable (path : Path) : Prop extends IsNameable path where
  size : ∀ size ∈ FileTree.byteSize? path.text, size ≤ FileTree.pathLimit

/-- A path above one that can be followed can be followed. -/
theorem IsFollowable.above {root : PathRoot} {names : List Text} {last : Text}
    (h : IsFollowable { root, names := names ++ [last] }) : IsFollowable { root, names } := by
  obtain ⟨⟨⟨size, hencodable⟩, hnull⟩, hsize⟩ := h
  rcases text_above root names last with hpoint | hbegins
  · have hone : FileTree.byteSize? "." = some 1 := by decide
    refine ⟨⟨⟨1, hpoint ▸ hone⟩, hpoint ▸ by decide⟩, ?_⟩
    intro other hother
    rw [hpoint, hone] at hother
    cases hother
    decide
  · obtain ⟨fewer, hfewer, habove⟩ := FileTree.byteSize?_of_prefix hbegins hencodable
    refine ⟨⟨⟨fewer, habove⟩, ?_⟩, ?_⟩
    · rw [List.contains_eq_mem, decide_eq_false_iff_not] at hnull ⊢
      exact fun hmem => hnull (hbegins.subset hmem)
    · intro other hother
      cases habove.symm.trans hother
      exact Nat.le_trans hfewer (hsize size hencodable)

end Path

namespace FileTree

variable {tree after : FileTree} {place stop : Place} {names : List Text} {path : Path}

/-! ## Following names -/

/-- The place that a name leads to from another. -/
def enter (place : Place) (name : Text) : Place :=
  if name = ".." then place.dropLast else place ++ [name]

/-- The place that names lead to, whatever is there. -/
def lead (place : Place) (names : List Text) : Place := names.foldl enter place

/-- The place that the paths of a root start at. -/
def start (tree : FileTree) (root : PathRoot) : Place :=
  if root = .working then tree.working else []

/-- A name is not too long. -/
def IsShort (name : Text) : Prop := (byteSize? name).getD 0 ≤ nameLimit

/-- The later tree has the nodes of the earlier one, and directories where nothing stood. -/
structure Extends (tree after : FileTree) : Prop where
  working : after.working = tree.working
  nodes : ∀ place, after.nodeAt? place = tree.nodeAt? place ∨
    tree.nodeAt? place = none ∧ after.nodeAt? place = some .directory

namespace Extends

/-- A tree has its own nodes. -/
theorem refl (tree : FileTree) : Extends tree tree := ⟨rfl, fun _ => .inl rfl⟩

/-- What a tree keeps through two changes, it keeps through both. -/
theorem trans {middle : FileTree} (hfirst : Extends tree middle) (hsecond : Extends middle after) :
    Extends tree after := by
  refine ⟨hsecond.working.trans hfirst.working, ?_⟩
  intro place
  rcases hsecond.nodes place with hsame | ⟨hnone, hdirectory⟩
  · rw [hsame]
    exact hfirst.nodes place
  · rcases hfirst.nodes place with hsame | ⟨-, hmade⟩
    · exact .inr ⟨hsame ▸ hnone, hdirectory⟩
    · cases hmade.symm.trans hnone

/-- Nodes stay. -/
theorem nodeAt? (h : Extends tree after) {node : Node} (hnode : tree.nodeAt? place = some node) :
    after.nodeAt? place = some node := by
  rcases h.nodes place with hsame | ⟨hnone, -⟩
  · exact hsame.trans hnode
  · cases hnode.symm.trans hnone

/-- Files are the same. -/
theorem file_iff (h : Extends tree after) (bytes : ByteArray) :
    after.nodeAt? place = some (.file bytes) ↔ tree.nodeAt? place = some (.file bytes) := by
  refine ⟨?_, h.nodeAt?⟩
  intro hfile
  rcases h.nodes place with hsame | ⟨-, hmade⟩
  · exact hsame.symm.trans hfile
  · cases hmade.symm.trans hfile

/-- A path begins at the same place in a tree with more directories. -/
theorem start (h : Extends tree after) (root : PathRoot) : after.start root = tree.start root := by
  rw [FileTree.start, FileTree.start, h.working]

/-- Names that could be followed lead to the same place. -/
theorem follow (h : Extends tree after) (hfollow : tree.follow place names = .ok stop) :
    after.follow place names = .ok stop := by
  induction names generalizing place with
  | nil => exact hfollow
  | cons name rest ih =>
    rw [FileTree.follow] at hfollow ⊢
    split at hfollow
    · cases hfollow
    · cases hfollow
    · next hhere =>
      rw [h.nodeAt? hhere]
      dsimp only
      split at hfollow
      · cases hfollow
      · next hshort =>
        rw [if_neg hshort]
        exact ih hfollow

end Extends

/-! ## What stands at a path -/

/-- A directory is at the path or can be made there: the path can be named, neither it nor one of
its names is too long, and no file is where some of its first names lead. -/
structure CanHold (tree : FileTree) (path : Path) : Prop where
  followable : path.IsFollowable
  names : ∀ name ∈ path.names, IsShort name
  clear : ∀ first, first <+: path.names → ∀ bytes,
    tree.nodeAt? (lead (tree.start path.root) first) ≠ some (.file bytes)

/-- More directories change nothing about where a directory can be. -/
theorem Extends.canHold_iff (h : Extends tree after) (path : Path) :
    after.CanHold path ↔ tree.CanHold path := by
  refine ⟨fun hholds => ⟨hholds.followable, hholds.names, ?_⟩,
    fun hholds => ⟨hholds.followable, hholds.names, ?_⟩⟩
  · intro first hbegins bytes hfile
    refine hholds.clear first hbegins bytes ?_
    rw [h.start]
    exact (h.file_iff bytes).2 hfile
  · intro first hbegins bytes hfile
    rw [h.start] at hfile
    exact hholds.clear first hbegins bytes ((h.file_iff bytes).1 hfile)

/-- Where a directory can be, the one above it can be, too. -/
theorem CanHold.above {root : PathRoot} {last : Text}
    (h : tree.CanHold { root, names := names ++ [last] }) : tree.CanHold { root, names } := by
  refine ⟨h.followable.above, fun name hname => h.names name (List.mem_append_left _ hname), ?_⟩
  intro first hbegins
  exact h.clear first (hbegins.trans (List.prefix_append names [last]))

/-- Why the text of a path keeps it from being followed at all. -/
def IsRefusal (fault : StorageFault) : Prop := fault = .unencodable ∨ fault = .nullCharacter

/-- A path that cannot be named is refused at once. -/
theorem locate_of_not_nameable (tree : FileTree) (h : ¬ path.IsNameable) :
    ∃ fault, tree.locate path = .error fault ∧ IsRefusal fault := by
  rw [locate]
  split
  · exact ⟨_, rfl, .inl rfl⟩
  · next size hsize =>
    split
    · exact ⟨_, rfl, .inr rfl⟩
    · next hnull => exact absurd ⟨⟨size, hsize⟩, Bool.eq_false_iff.2 hnull⟩ h

/-- A path that can be followed leads where its names do. -/
theorem locate_of_followable (tree : FileTree) (h : path.IsFollowable) :
    tree.locate path = tree.follow (tree.start path.root) path.names := by
  obtain ⟨size, hencodable⟩ := h.encodable
  rw [locate, hencodable]
  dsimp only
  rw [h.noNull, if_neg Bool.false_ne_true, if_neg (Nat.not_lt.2 (h.size size hencodable)), start]

/-- A path is followed from where it starts, or it is too long, or it is refused. -/
theorem locate_cases (tree : FileTree) (path : Path) :
    (path.IsFollowable ∧ tree.locate path = tree.follow (tree.start path.root) path.names) ∨
    (path.IsNameable ∧ tree.locate path = .error .nameTooLong) ∨
    (¬ path.IsNameable ∧ ∃ fault, tree.locate path = .error fault ∧ IsRefusal fault) := by
  by_cases hnameable : path.IsNameable
  · by_cases hsize : ∀ size ∈ byteSize? path.text, size ≤ pathLimit
    · exact .inl ⟨⟨hnameable, hsize⟩, locate_of_followable tree ⟨hnameable, hsize⟩⟩
    · refine .inr (.inl ⟨hnameable, ?_⟩)
      obtain ⟨size, hencodable⟩ := hnameable.encodable
      have hlong : pathLimit < size := by
        rw [hencodable] at hsize
        simpa using hsize
      rw [locate, hencodable]
      dsimp only
      rw [hnameable.noNull, if_neg Bool.false_ne_true, if_pos hlong]
  · exact .inr (.inr ⟨hnameable, locate_of_not_nameable tree hnameable⟩)

/-- A path that was located could be followed. -/
theorem follow_of_locate (h : tree.locate path = .ok place) :
    path.IsFollowable ∧ tree.follow (tree.start path.root) path.names = .ok place := by
  rcases locate_cases tree path with ⟨hfollowable, hfollow⟩ | ⟨-, hlong⟩ | ⟨-, fault, hrefused, -⟩
  · exact ⟨hfollowable, hfollow.symm.trans h⟩
  · cases hlong.symm.trans h
  · cases hrefused.symm.trans h

/-- A path that was located is at the same place in a tree with more directories. -/
theorem Extends.locate (hextends : tree.Extends after) (h : tree.locate path = .ok place) :
    after.locate path = .ok place := by
  obtain ⟨hfollowable, hfollow⟩ := follow_of_locate h
  rw [locate_of_followable after hfollowable, hextends.start]
  exact hextends.follow hfollow

/-- What an attempt to make a directory at a path comes to, and the tree that it leaves. It succeeds
if the path can hold a directory, and then one is there; its fault is a refusal exactly if the path
cannot be named. -/
structure Makes (tree : FileTree) (path : Path) (attempt : Except StorageFault Unit × FileTree) :
    Prop where
  extended : tree.Extends attempt.2
  isDirectory : attempt.1 = .ok () → attempt.2.isDirectory path = true
  succeeds : tree.CanHold path → attempt.1 = .ok ()
  refusal : ∀ fault, attempt.1 = .error fault → (IsRefusal fault ↔ ¬ path.IsNameable)

/-- What was tried in a tree with more directories could have been tried before. -/
theorem Makes.of_extends {attempt : Except StorageFault Unit × FileTree}
    (hextends : tree.Extends after) (h : Makes after path attempt) : Makes tree path attempt where
  extended := hextends.trans h.extended
  isDirectory := h.isDirectory
  succeeds := fun hholds => h.succeeds ((hextends.canHold_iff path).2 hholds)
  refusal := h.refusal

/-- An attempt to make one directory. -/
def attempt (tree : FileTree) (path : Path) : Except StorageFault Unit × FileTree :=
  tree.allowDirectory path (tree.makeDirectory path)

end FileTree

end Breakpoint
