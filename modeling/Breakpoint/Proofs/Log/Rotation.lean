import Mathlib.Data.List.Basic
import Breakpoint.Log.Format
import Breakpoint.Log.Rotation

/-!
# What rotation keeps

A rotating log that starts with no older files never has a gap among them, so its files hold whole
records in the order in which they were written. Only the oldest file is ever given up, and so the
records that are left are the last ones, unless the name of the file leaves no room for the number
of an older one: then records are lost in between.
-/

namespace Breakpoint.RotatingLog

/-- Bytes one after another. -/
def joined (records : List ByteArray) : ByteArray := records.foldl (· ++ ·) .empty

/-- One more record joins the bytes at their end. -/
theorem joined_concat (records : List ByteArray) (bytes : ByteArray) :
    joined (records ++ [bytes]) = joined records ++ bytes := List.foldl_concat _ _ _ _

/-- The records of a log file by file, as they were written, given those of the live file and those
of the older files, the latest of which comes first. -/
def inOrder (live : List ByteArray) (older : List (List ByteArray)) : List (List ByteArray) :=
  (live :: older).reverse

/-- Records added to the live file are the last of all. -/
theorem flatten_inOrder_append (live more : List ByteArray) (older : List (List ByteArray)) :
    (inOrder (live ++ more) older).flatten = (inOrder live older).flatten ++ more := by
  simp [inOrder, List.append_assoc]

/-- With an empty live file, the records are those of the older files. -/
theorem flatten_inOrder_nil (files : List (List ByteArray)) :
    (inOrder [] files).flatten = files.reverse.flatten := by
  simp [inOrder]

/-- Without the oldest files the last records are left. -/
theorem flatten_take_suffix (files : List (List ByteArray)) (room : Nat) :
    (files.take room).reverse.flatten <:+ files.reverse.flatten := by
  obtain ⟨front, hfront⟩ := List.reverse_suffix.2 (List.take_prefix room files)
  exact ⟨front.flatten, by rw [← hfront, List.flatten_append]⟩

/-- The files of a log hold the bytes of these records. -/
structure Holds (log : RotatingLog) (live : List ByteArray) (older : List (List ByteArray)) :
    Prop where
  inLive : log.live = joined live
  inOlder : log.older = (older.map joined).map some

variable {log after : RotatingLog} {live written : List ByteArray} {older : List (List ByteArray)}
  {line : Text} {count : Nat}

/-- The files of a log hold their records joined. -/
theorem Holds.contents (h : Holds log live older) :
    log.contents = (inOrder live older).map joined := by
  rw [RotatingLog.contents, h.inLive, h.inOlder, inOrder, List.reverse_cons, List.map_append,
    ← List.map_reverse, ← List.map_reverse, List.filterMap_map]
  exact congrArg (· ++ _) List.filterMap_some

/-- The files have the numbers from zero on, without a gap. -/
theorem Holds.file? (h : Holds log live older) (number : Nat) :
    log.file? number = ((inOrder live older).reverse[number]?).map joined := by
  rw [inOrder, List.reverse_reverse]
  cases number with
  | zero => exact congrArg some h.inLive
  | succ number =>
    rw [RotatingLog.file?, h.inOlder, List.getElem?_map, List.getElem?_map, List.getElem?_cons_succ]
    cases older[number]? <;> rfl

/-! ## Moving up -/

/-- Without gaps every file moves up by one, and the one beyond the room is given up. -/
theorem moveUp_map_some (incoming : ByteArray) {room : Nat} (hroom : 0 < room)
    {files : List ByteArray} (h : files.length ≤ room) :
    moveUp (some incoming) room (files.map some) = ((incoming :: files).take room).map some := by
  induction room generalizing incoming files with
  | zero => cases hroom
  | succ room ih =>
    cases room with
    | zero => rfl
    | succ room =>
      cases files with
      | nil => rfl
      | cons file rest =>
        have hshorter : rest.length ≤ room + 1 := Nat.le_of_succ_le_succ h
        rw [List.map_cons, moveUp, ih file (Nat.succ_pos room) hshorter]
        rfl

/-- A log that is stuck has no names left for its older files. -/
theorem isStuck_iff (h : Holds log live older) :
    log.isStuck = true ↔ log.reach < log.backups ∧ log.reach ≤ older.length := by
  have hfile : (log.file? log.reach).isSome = true ↔ log.reach < older.length + 1 := by
    rw [h.file?, inOrder, List.reverse_reverse, Option.isSome_map]
    simp
  rw [isStuck, Bool.and_eq_true, decide_eq_true_iff, hfile, Nat.lt_add_one_iff]

/-! ## The records that are kept -/

/-- What is left in the files of a log of the records that were written with so many lines: whole
records in order, and the last ones as long as there are names for that many older files. None was
given up while there are fewer files than the log may have, or only ever one. -/
structure Keeps (written : List ByteArray) (count : Nat) (log : RotatingLog)
    (live : List ByteArray) (older : List (List ByteArray)) : Prop
    extends Holds log live older where
  room : older.length ≤ log.room
  rolled : older.length ≤ count
  kept : (inOrder live older).flatten.Sublist written
  last : min log.backups count ≤ log.reach → (inOrder live older).flatten <:+ written
  all : min log.backups count ≤ log.reach → older.length < log.backups ∨ log.backups = 0 →
    (inOrder live older).flatten = written

/-- With more lines there is no more to show. -/
theorem Keeps.later (h : Keeps written count log live older) :
    Keeps written (count + 1) log live older where
  toHolds := h.toHolds
  room := h.room
  rolled := Nat.le_succ_of_le h.rolled
  kept := h.kept
  last hreach := h.last (by omega)
  all hreach := h.all (by omega)

/-- A record comes last in the live file. -/
theorem Keeps.append (h : Keeps written count log live older) (line : Text) :
    Keeps (written ++ (Text.utf8? line).toList) count (log.append line)
      (live ++ (Text.utf8? line).toList) older := by
  rw [RotatingLog.append]
  cases Text.utf8? line with
  | none => simpa using h
  | some bytes =>
    rw [Option.toList_some]
    refine ⟨⟨?_, h.inOlder⟩, h.room, h.rolled, ?_, ?_, ?_⟩
    · rw [joined_concat, ← h.inLive]
    · rw [flatten_inOrder_append]
      exact h.kept.append (List.Sublist.refl _)
    · intro hreach
      obtain ⟨front, hfront⟩ := h.last hreach
      rw [flatten_inOrder_append]
      exact ⟨front, by rw [← List.append_assoc, hfront]⟩
    · intro hreach hfew
      rw [flatten_inOrder_append, h.all hreach hfew]

/-- Moving the files up gives up the oldest one at most. -/
theorem Keeps.roll (h : Keeps written count log live older) (hroll : log.roll = some after) :
    ∃ live older, Keeps written (count + 1) after live older := by
  rw [RotatingLog.roll] at hroll
  split at hroll
  · cases hroll
    exact ⟨live, older, h.later⟩
  · next hbackups =>
    split at hroll
    · cases hroll
    · next hstuck =>
      cases hroll
      rw [isStuck_iff h.toHolds] at hstuck
      have hcount := h.rolled
      have hroom : 0 < log.room := by
        rw [RotatingLog.room]
        omega
      have hsuffix : (inOrder [] ((live :: older).take log.room)).flatten <:+
          (inOrder live older).flatten := by
        rw [flatten_inOrder_nil]
        exact flatten_take_suffix (live :: older) log.room
      refine ⟨[], (live :: older).take log.room, ⟨rfl, ?_⟩, ?_, ?_, ?_, ?_, ?_⟩
      · have hlength : (older.map joined).length ≤ log.room := by
          rw [List.length_map]
          exact h.room
        dsimp only
        rw [h.inLive, h.inOlder, moveUp_map_some _ hroom hlength, ← List.map_cons]
        simp only [List.map_take]
      · exact List.length_take_le _ _
      · exact Nat.le_trans (List.length_take_le' _ _) (Nat.succ_le_succ hcount)
      · exact hsuffix.sublist.trans h.kept
      · intro hreach
        dsimp only at hreach
        exact hsuffix.trans (h.last (by omega))
      · intro hreach hfew
        dsimp only at hreach hfew
        rw [List.length_take, List.length_cons, RotatingLog.room] at hfew
        -- With a number to spare no file is beyond the room.
        have hfits : (live :: older).length ≤ log.room := by
          rw [List.length_cons, RotatingLog.room]
          omega
        rw [flatten_inOrder_nil, List.take_of_length_le hfits]
        exact h.all (by omega) (by omega)

/-- A line that is not written is lost between others. -/
theorem Keeps.lose (h : Keeps written count log live older) (hroll : log.roll = none)
    (lost : List ByteArray) : Keeps (written ++ lost) (count + 1) log live older := by
  rw [RotatingLog.roll] at hroll
  split at hroll
  · cases hroll
  · split at hroll
    · next hstuck =>
      rw [isStuck_iff h.toHolds] at hstuck
      have hcount := h.rolled
      have hnone : ¬ min log.backups (count + 1) ≤ log.reach := by omega
      exact ⟨h.toHolds, h.room, Nat.le_succ_of_le hcount,
        h.kept.trans (List.sublist_append_left _ _), fun hreach => absurd hreach hnone,
        fun hreach => absurd hreach hnone⟩
    · cases hroll

/-- Every line leaves the log with whole records. -/
theorem Keeps.write (h : Keeps written count log live older) (line : Text) :
    ∃ live older,
      Keeps (written ++ (Text.utf8? line).toList) (count + 1) (log.write line) live older := by
  rw [RotatingLog.write]
  split
  · cases hroll : log.roll with
    | some rolled =>
      obtain ⟨live, older, hrolled⟩ := h.roll hroll
      exact ⟨_, _, hrolled.append line⟩
    | none => exact ⟨_, _, h.lose hroll _⟩
  · exact ⟨_, _, (h.append line).later⟩

/-- After any lines a log that held whole records does so. -/
theorem Keeps.writeAll (h : Keeps written count log live older) (lines : List Text) :
    ∃ live older, Keeps (written ++ lines.filterMap Text.utf8?) (count + lines.length)
      (log.writeAll lines) live older := by
  induction lines generalizing written count log live older with
  | nil =>
    rw [List.filterMap_nil, List.append_nil]
    exact ⟨live, older, h⟩
  | cons line rest ih =>
    obtain ⟨_, _, hnext⟩ := h.write line
    have hrest := ih hnext
    have hrecords : (line :: rest).filterMap Text.utf8? =
        (Text.utf8? line).toList ++ rest.filterMap Text.utf8? := by
      rw [List.filterMap_cons]
      cases Text.utf8? line <;> rfl
    rwa [List.append_assoc, ← hrecords, Nat.add_right_comm, Nat.add_assoc] at hrest

/-! ## What a log is bound to -/

/-- A line changes neither how many files a log may have nor how long they may be. -/
theorem append_bounds (log : RotatingLog) (line : Text) :
    (log.append line).backups = log.backups ∧ (log.append line).reach = log.reach := by
  rw [RotatingLog.append]
  split <;> exact ⟨rfl, rfl⟩

/-- How many older files are kept, and how many there are names for, never changes. -/
theorem write_bounds (log : RotatingLog) (line : Text) :
    (log.write line).backups = log.backups ∧ (log.write line).reach = log.reach := by
  rw [RotatingLog.write]
  split
  · split
    · next rolled hroll =>
      have hrolled : rolled.backups = log.backups ∧ rolled.reach = log.reach := by
        rw [RotatingLog.roll] at hroll
        split at hroll
        · cases hroll
          exact ⟨rfl, rfl⟩
        · split at hroll
          · cases hroll
          · cases hroll
            exact ⟨rfl, rfl⟩
      rw [(append_bounds rolled line).1, (append_bounds rolled line).2]
      exact hrolled
    · exact ⟨rfl, rfl⟩
  · exact append_bounds log line

/-- Lines change neither how many files a log may have nor how long they may be. -/
theorem writeAll_bounds (log : RotatingLog) (lines : List Text) :
    (log.writeAll lines).backups = log.backups ∧ (log.writeAll lines).reach = log.reach := by
  induction lines generalizing log with
  | nil => exact ⟨rfl, rfl⟩
  | cons line rest ih =>
    obtain ⟨hbackups, hreach⟩ := ih (log.write line)
    exact ⟨hbackups.trans (write_bounds log line).1, hreach.trans (write_bounds log line).2⟩

/-! ## Logs in files -/

/-- The lines that a format makes of entries; of some it may make none. -/
def linesOf (format : LogFormat) (entries : List LogEntry) : List Text :=
  entries.filterMap fun entry => (format.line? entry).map (· ++ "\n")

/-- A place is not the root, and nothing is in the directory that it is in. -/
structure IsFresh (files : FileTree) (place : Place) : Prop where
  below : place ≠ []
  empty : ∀ entry ∈ files.nodes, entry.1.dropLast ≠ place.dropLast

/-- Nothing stands at a fresh place. -/
theorem nodeAt?_of_isFresh {files : FileTree} {place : Place} (h : IsFresh files place) :
    files.nodeAt? place = none := by
  rw [FileTree.nodeAt?, List.isEmpty_eq_false_iff.2 h.below, if_neg Bool.false_ne_true]
  refine List.lookup_eq_none_iff.2 fun entry hentry => ?_
  rw [bne_iff_ne]
  rintro rfl
  exact h.empty entry hentry rfl

/-- A fresh place has no older files beside it. -/
theorem olderAt_of_isFresh {files : FileTree} {place : Place} (h : IsFresh files place) :
    olderAt files place = [] := by
  refine List.filterMap_eq_nil_iff.2 fun entry hentry => ?_
  dsimp only
  split
  · rw [if_neg (h.empty entry hentry)]
  · rfl

/-- In a fresh directory a log opens without older files. -/
theorem openAt_of_isFresh {files : FileTree} {path : Path} {place : Place}
    (hplace : files.locate path = .ok place) (h : IsFresh files place) (retention limit : Int) :
    openAt files path retention limit =
      .ok ({ limit, backups := backupsFor retention, reach := reachOf path },
        files.put place (.file .empty)) := by
  have hnode := nodeAt?_of_isFresh h
  have hread : files.read path = .error .missing := by
    simp only [FileTree.read, FileTree.lookup, hplace, hnode, Bind.bind, Except.bind]
  have hwrite : files.write path .empty = .ok (files.put place (.file .empty)) := by
    simp only [FileTree.write, hplace, hnode, Bind.bind, Except.bind]
    rfl
  have hofFiles : ofFiles files path retention limit .empty =
      { limit, backups := backupsFor retention, reach := reachOf path } := by
    simp only [ofFiles, hplace, Except.toOption, Option.getD_some, olderAt_of_isFresh h]
    rfl
  rw [openAt, hread]
  simp only [hwrite, hofFiles, Bind.bind, Except.bind]
  rfl

/-- A log that is opened in a fresh directory ends with no more files than it is to keep, whatever
it is given to write. They have the numbers from zero on and hold whole records in order, each once.
If the name of the log leaves room for the numbers of its older files, these are the last ones of
all that have bytes, and none is given up before there are as many files as may be kept, or ever if
that is only one. -/
theorem rotated_keeps_last {files : FileTree} {path : Path} {place : Place}
    (hplace : files.locate path = .ok place) (hfresh : IsFresh files place) (retention limit : Int)
    (format : LogFormat) (entries : List LogEntry) :
    ∃ log opened, openAt files path retention limit = .ok (log, opened) ∧
      let lines := linesOf format entries
      let written := lines.filterMap Text.utf8?
      (log.writeAll lines).contents.length ≤ (max 1 retention).toNat ∧
      ∃ kept : List (List ByteArray), (log.writeAll lines).contents = kept.map joined ∧
        (∀ number, (log.writeAll lines).file? number = (kept.reverse[number]?).map joined) ∧
        kept.flatten.Sublist written ∧
        (min (backupsFor retention) lines.length ≤ reachOf path →
          kept.flatten <:+ written ∧
          ((kept.length < (max 1 retention).toNat ∨ retention ≤ 1) → kept.flatten = written)) := by
  refine ⟨_, _, openAt_of_isFresh hplace hfresh retention limit, ?_⟩
  intro lines written
  have hnew : Keeps [] 0 { limit, backups := backupsFor retention, reach := reachOf path } [] [] :=
    ⟨⟨rfl, rfl⟩, Nat.zero_le _, Nat.le_refl _, List.Sublist.refl _, fun _ => List.suffix_rfl,
      fun _ _ => rfl⟩
  obtain ⟨live, older, hkeeps⟩ := hnew.writeAll lines
  obtain ⟨hbackups, hreach⟩ := writeAll_bounds
    { limit, backups := backupsFor retention, reach := reachOf path } lines
  have hlength : (inOrder live older).length = older.length + 1 := List.length_reverse
  rw [hkeeps.contents]
  refine ⟨?_, inOrder live older, rfl, hkeeps.file?, hkeeps.kept, ?_⟩
  · have hroom := hkeeps.room
    rw [RotatingLog.room, hbackups] at hroom
    dsimp only [backupsFor] at hroom
    rw [List.length_map, hlength]
    omega
  · intro hlines
    have hlast := hkeeps.last
    have hall := hkeeps.all
    rw [hbackups, hreach, Nat.zero_add] at hlast hall
    refine ⟨hlast hlines, fun hfew => hall hlines ?_⟩
    rw [hlength] at hfew
    dsimp only [backupsFor]
    omega

/-- A directory with nothing in it. -/
def freshFiles : FileTree := { nodes := [(["logs"], .directory)] }

/-- Entries of one logger. -/
def entriesOf (messages : List Text) : List LogEntry :=
  messages.map fun message => ⟨"x", "INFO", 20, message⟩

/-- Two files of a log that ends with one record in each. -/
theorem two_files_kept :
    let path : Path := { root := .slash, names := ["logs", "x.log"] }
    let entries := entriesOf ["aa", "bb", "cc"]
    ∃ log opened, openAt freshFiles path 2 4 = .ok (log, opened) ∧
      (log.writeAll (linesOf .messageOnly entries)).contents.length ≤ 2 ∧
      ∃ kept : List (List ByteArray),
        (log.writeAll (linesOf .messageOnly entries)).contents = kept.map joined ∧
          kept.flatten <:+ (linesOf .messageOnly entries).filterMap Text.utf8? := by
  intro path entries
  have hfresh : IsFresh freshFiles ["logs", "x.log"] := ⟨by decide, by decide⟩
  have hplace : freshFiles.locate path = .ok ["logs", "x.log"] := rfl
  obtain ⟨log, opened, hopen, hcount, kept, hkept, -, -, hlast⟩ :=
    rotated_keeps_last hplace hfresh 2 4 .messageOnly entries
  exact ⟨log, opened, hopen, hcount, kept, hkept, (hlast (by decide)).1⟩

/-- Records that are lost although they are the last ones: one that has no bytes, and those that
would have the files move when the name is too long for that. -/
theorem last_records_lost :
    let half : List LogEntry := entriesOf ["a", [CodePoint.surrogate 0]]
    let short : List LogEntry := entriesOf ["aaaa", "bbbb", "cccc"]
    let long : Text := List.replicate 255 (CodePoint.char 'x')
    let left (name : Text) (retention limit : Int) (entries : List LogEntry) : List (Option Text) :=
      match openAt freshFiles { root := .slash, names := ["logs", name] } retention limit with
      | .ok (log, _) => (log.writeAll (linesOf .messageOnly entries)).contents.map Text.ofUtf8?
      | .error _ => []
    (left "x.log" 5 0 half = [some (Text.ofString "a\n")] ∧
      ¬ Text.ofString "a\n" <:+ (linesOf .messageOnly half).flatten) ∧
    left long 3 6 short = [some (Text.ofString "aaaa\n")] ∧
      ¬ Text.ofString "aaaa\n" <:+ (linesOf .messageOnly short).flatten := by
  decide +kernel

end Breakpoint.RotatingLog
