import Breakpoint.Proofs.Log.Rotation
import Breakpoint.Proofs.Text.Bytes

/-!
# The limit of log files

A rotating log that keeps older files never brings a file to its limit if each line is shorter than
that. Lines are measured in code points and files in bytes, so a file may be larger by as many bytes
as its last line has more than code points, which is none if the line is ASCII.

A log that keeps no older files has nowhere to move its only file to, and the file takes everything.
-/

namespace Breakpoint.RotatingLog

variable {log : RotatingLog} {limit : Int} {line : Text} {files opened : FileTree} {path : Path}
  {retention : Int}

/-! ## Opening a log -/

/-- A log is opened with the files that are there. -/
theorem exists_ofFiles (h : openAt files path retention limit = .ok (log, opened)) :
    ∃ live, log = ofFiles files path retention limit live := by
  rw [openAt] at h
  split at h
  · cases h
    exact ⟨_, rfl⟩
  · cases hwrite : files.write path .empty with
    | error fault =>
      rw [hwrite] at h
      cases h
    | ok written =>
      rw [hwrite] at h
      cases h
      exact ⟨_, rfl⟩
  · cases h

/-- Numbers that are at most zero number no older files. -/
theorem byNumber_eq_nil {found : List (Nat × ByteArray)} (h : ∀ entry ∈ found, entry.1 ≤ 0) :
    byNumber found = [] := by
  have hmax : (found.map (·.1)).foldl max 0 = 0 := by
    induction found with
    | nil => rfl
    | cons entry found ih =>
      rw [List.forall_mem_cons] at h
      rw [List.map_cons, List.foldl_cons, Nat.le_zero.1 h.1]
      exact ih h.2
  rw [byNumber, hmax]
  rfl

/-! ## Files within a limit -/

/-- Moving files up makes no new ones. -/
theorem mem_moveUp {bytes : ByteArray} {incoming : Option ByteArray} {room : Nat}
    {older : List (Option ByteArray)} (h : some bytes ∈ moveUp incoming room older) :
    incoming = some bytes ∨ some bytes ∈ older := by
  induction room generalizing incoming older with
  | zero => exact .inr h
  | succ room ih =>
    cases room with
    | zero =>
      rw [moveUp, List.mem_singleton, eq_comm, Option.or_eq_some_iff] at h
      rcases h with hincoming | ⟨-, hfirst⟩
      · exact .inl hincoming
      · rw [Option.join_eq_some_iff] at hfirst
        exact .inr (List.mem_of_head? hfirst)
    | succ room =>
      cases older with
      | nil =>
        rw [moveUp, List.mem_singleton] at h
        exact .inl h.symm
      | cons file rest =>
        rw [moveUp, List.mem_cons] at h
        rcases h with hincoming | hrest
        · exact .inl hincoming.symm
        · rcases ih hrest with hfile | hrest
          · exact .inr (List.mem_cons.2 (.inl hfile.symm))
          · exact .inr (List.mem_cons_of_mem _ hrest)

/-- A log that moves its files up at a limit, each of which was there before or is below a size. -/
structure IsWithin (known : List ByteArray) (limit size : Int) (log : RotatingLog) : Prop where
  limit_eq : log.limit = limit
  moves : log.backups ≠ 0
  live : log.live ∈ known ∨ (log.live.size : Int) < size
  older : ∀ bytes, some bytes ∈ log.older → bytes ∈ known ∨ (bytes.size : Int) < size

variable {known : List ByteArray} {size : Int}

/-- The files of a log are the live one and the older ones. -/
theorem mem_contents {bytes : ByteArray} :
    bytes ∈ log.contents ↔ some bytes ∈ log.older ∨ bytes = log.live := by
  simp [contents]

/-- Every file of a log within its limits was known or is short enough. -/
theorem IsWithin.of_mem_contents (h : IsWithin known limit size log) {bytes : ByteArray}
    (hfile : bytes ∈ log.contents) : bytes ∈ known ∨ (bytes.size : Int) < size := by
  rcases mem_contents.1 hfile with holder | rfl
  · exact h.older bytes holder
  · exact h.live

/-- A log is within a limit that its files are taken to be within. -/
theorem isWithin_contents (hmoves : log.backups ≠ 0) (size : Int) :
    IsWithin log.contents log.limit size log where
  limit_eq := rfl
  moves := hmoves
  live := .inl (mem_contents.2 (.inr rfl))
  older _ holder := .inl (mem_contents.2 (.inl holder))

/-- A line that fits is added to the live file. -/
theorem IsWithin.append (h : IsWithin known limit size log)
    (hfits : ∀ bytes, Text.utf8? line = some bytes → ((log.live ++ bytes).size : Int) < size) :
    IsWithin known limit size (log.append line) := by
  rw [RotatingLog.append]
  cases hbytes : Text.utf8? line with
  | none => exact h
  | some bytes => exact ⟨h.limit_eq, h.moves, .inr (hfits bytes hbytes), h.older⟩

/-- When the files move up, an empty file is begun. -/
theorem IsWithin.roll {rolled : RotatingLog} (h : IsWithin known limit size log) (hsize : 0 < size)
    (hroll : log.roll = some rolled) : rolled.live = .empty ∧ IsWithin known limit size rolled := by
  rw [RotatingLog.roll, if_neg h.moves] at hroll
  split at hroll
  · cases hroll
  · cases hroll
    refine ⟨rfl, h.limit_eq, h.moves, .inr hsize, fun bytes hbytes => ?_⟩
    rcases mem_moveUp hbytes with hlive | holder
    · cases hlive
      exact h.live
    · exact h.older bytes holder

/-- A line shorter than the limit brings no file to the limit. -/
theorem IsWithin.write {extra : Nat} (h : IsWithin known limit (limit + extra) log)
    (hshort : (line.length : Int) < limit)
    (hextra : ∀ bytes, Text.utf8? line = some bytes → bytes.size ≤ line.length + extra) :
    IsWithin known limit (limit + extra) (log.write line) := by
  rw [RotatingLog.write]
  split
  · cases hroll : log.roll with
    | none => exact h
    | some rolled =>
      obtain ⟨hempty, hrolled⟩ := h.roll (by omega) hroll
      refine hrolled.append fun bytes hbytes => ?_
      have hsize := hextra bytes hbytes
      rw [hempty, ByteArray.empty_append]
      omega
  · next hfull =>
    refine h.append fun bytes hbytes => ?_
    have hsize := hextra bytes hbytes
    rw [isFull, h.limit_eq, Bool.and_eq_true, decide_eq_true_iff, decide_eq_true_iff] at hfull
    rw [ByteArray.size_append]
    omega

/-- Lines shorter than the limit bring no file to the limit. -/
theorem IsWithin.writeAll {extra : Nat} {lines : List Text}
    (h : IsWithin known limit (limit + extra) log)
    (hshort : ∀ line ∈ lines, (line.length : Int) < limit)
    (hextra : ∀ line ∈ lines, ∀ bytes, Text.utf8? line = some bytes →
      bytes.size ≤ line.length + extra) :
    IsWithin known limit (limit + extra) (log.writeAll lines) := by
  induction lines generalizing log with
  | nil => exact h
  | cons line lines ih =>
    rw [List.forall_mem_cons] at hshort hextra
    exact ih (h.write hshort.1 hextra.1) hshort.2 hextra.2

/-! ## A single file -/

/-- A log without older files goes on in its live file. -/
theorem write_of_single (hsingle : log.backups = 0) (line : Text) :
    log.write line = log.append line := by
  rw [write, roll, if_pos hsingle]
  exact ite_self _

/-- A log of a single file only grows. -/
theorem writeAll_of_single (hsingle : log.backups = 0) (lines : List Text) :
    (log.writeAll lines).older = log.older ∧ (log.writeAll lines).live =
      (lines.filterMap Text.utf8?).foldl (· ++ ·) log.live := by
  induction lines generalizing log with
  | nil => exact ⟨rfl, rfl⟩
  | cons line lines ih =>
    obtain ⟨holder, hlive⟩ := ih ((append_bounds log line).1.trans hsingle)
    rw [writeAll, List.foldl_cons, write_of_single hsingle, ← writeAll, holder, hlive]
    refine ⟨older_append log line, ?_⟩
    rw [append, List.filterMap_cons]
    cases Text.utf8? line <;> rfl

/-- The file of a log that is to keep no older ones holds what it held and every record. -/
theorem contents_of_single (hopen : openAt files path retention limit = .ok (log, opened))
    (hretention : retention ≤ 1) (lines : List Text) :
    (log.writeAll lines).contents = [joined (log.live :: lines.filterMap Text.utf8?)] := by
  obtain ⟨live, rfl⟩ := exists_ofFiles hopen
  have hbackups : backupsFor retention = 0 := by
    rw [backupsFor]
    omega
  have hsingle : (ofFiles files path retention limit live).backups = 0 := hbackups
  have hnone : (ofFiles files path retention limit live).older = [] := by
    rw [ofFiles, hbackups]
    refine byNumber_eq_nil fun entry hentry => ?_
    simpa using (List.mem_filter.1 hentry).2
  obtain ⟨holder, hlive⟩ := writeAll_of_single hsingle lines
  rw [contents, holder, hlive, hnone, joined, List.foldl_cons, ByteArray.empty_append]
  rfl

/-! ## Main result -/

/-- Lines shorter than the limit are written to a log that keeps older files. Then every file is as
it was found or below the limit, if the lines are ASCII, and otherwise below it but for the bytes that
a line has more than code points. A log that keeps no older files has one file without a limit. -/
theorem files_within_limit {files opened : FileTree} {path : Path} {retention limit : Int}
    {log : RotatingLog} {format : LogFormat} {entries : List LogEntry}
    (hopen : openAt files path retention limit = .ok (log, opened))
    (hshort : ∀ line ∈ linesOf format entries, (line.length : Int) < limit) :
    (1 < retention → ∀ written, written <+: linesOf format entries →
      ∀ bytes ∈ (log.writeAll written).contents, bytes ∈ log.contents ∨
        ((∀ line ∈ written, ∀ c ∈ line, c.val < 0x80) → (bytes.size : Int) < limit) ∧
          ∀ extra : Nat, (∀ line ∈ written, ∀ record, Text.utf8? line = some record →
            record.size ≤ line.length + extra) → (bytes.size : Int) < limit + extra) ∧
      (retention ≤ 1 → ∀ written, written <+: linesOf format entries →
        (log.writeAll written).contents = [joined (log.live :: written.filterMap Text.utf8?)]) := by
  refine ⟨fun hretention written hwritten bytes hbytes => ?_,
    fun hretention written _ => contents_of_single hopen hretention written⟩
  by_cases hknown : bytes ∈ log.contents
  · exact .inl hknown
  have hmoves : log.backups ≠ 0 ∧ log.limit = limit := by
    obtain ⟨live, rfl⟩ := exists_ofFiles hopen
    refine ⟨?_, rfl⟩
    change backupsFor retention ≠ 0
    rw [backupsFor]
    omega
  have hwithin : ∀ extra : Nat, (∀ line ∈ written, ∀ record, Text.utf8? line = some record →
      record.size ≤ line.length + extra) → (bytes.size : Int) < limit + extra := by
    intro extra hextra
    have hstart := isWithin_contents hmoves.1 (limit + extra)
    rw [hmoves.2] at hstart
    have hend := hstart.writeAll (fun line hline => hshort line (hwritten.subset hline)) hextra
    exact (hend.of_mem_contents hbytes).resolve_left hknown
  refine .inr ⟨fun hascii => ?_, hwithin⟩
  have hnone := hwithin 0 fun line hline record hrecord => by
    rw [Text.size_of_utf8? (hascii line hline) hrecord]
    exact Nat.le_refl _
  simpa using hnone

/-- Three lines of a log that keeps one older file. -/
theorem short_lines_within_limit :
    let path : Path := { root := .slash, names := ["logs", "p.log"] }
    let lines := linesOf .messageOnly (entriesOf ["abcde", "abc", "abcdefgh"])
    ∃ log opened, openAt freshFiles path 2 10 = .ok (log, opened) ∧
      (∀ line ∈ lines, (line.length : Int) < 10) ∧
      ∀ bytes ∈ (log.writeAll lines).contents, bytes.size < 10 := by
  intro path lines
  have hfresh : IsFresh freshFiles ["logs", "p.log"] := ⟨by decide, by decide⟩
  have hplace : freshFiles.locate path = .ok ["logs", "p.log"] := rfl
  have hopen := openAt_of_isFresh hplace hfresh 2 10
  have hshort : ∀ line ∈ lines, (line.length : Int) < 10 := by decide
  have hascii : ∀ line ∈ lines, ∀ c ∈ line, c.val < 0x80 := by decide
  refine ⟨_, _, hopen, hshort, fun bytes hbytes => ?_⟩
  rcases (files_within_limit hopen hshort).1 (by decide) lines List.prefix_rfl bytes hbytes
    with hfound | hwithin
  · cases List.mem_singleton.1 hfound
    decide
  · exact Int.ofNat_lt.1 (hwithin.1 hascii)

/-- Files beyond the limit although each line is shorter: one that has no older file to move to, and
one with a format that is not ASCII. -/
theorem limit_exceeded :
    let accented : LogFormat :=
      .pieces [.literal 'é', .literal 'é', .field { name := some "message" }]
    let recordSizes (format : LogFormat) (messages : List Text) : List (Option Nat) :=
      (linesOf format (entriesOf messages)).map fun line => (Text.utf8? line).map ByteArray.size
    let fileSizes (retention limit : Int) (format : LogFormat) (messages : List Text) : List Nat :=
      match openAt freshFiles { root := .slash, names := ["logs", "p.log"] } retention limit with
      | .ok (log, _) =>
        (log.writeAll (linesOf format (entriesOf messages))).contents.map ByteArray.size
      | .error _ => []
    (recordSizes .messageOnly ["abcde", "abcde"] = [some 6, some 6] ∧
      fileSizes 1 10 .messageOnly ["abcde", "abcde"] = [12]) ∧
    recordSizes accented ["a", "a"] = [some 6, some 6] ∧ fileSizes 2 11 accented ["a", "a"] = [12] := by
  decide +kernel

end Breakpoint.RotatingLog
