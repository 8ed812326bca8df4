import Breakpoint.Frames
import Breakpoint.Session
import Mathlib.Data.List.Basic

/-!
# The order of the frames

A schedule numbers its frames in the order in which they come, and a flush takes the first of them.
So the frames that are taken off the schedule, one flush after the other, are in the order of their
handles, whatever is scheduled and cancelled in between and from within the tasks.

Each frame that a flush has taken starts in its turn, if no task fails and no flush is begun while
another one is under way. Then the order in which frames are taken is that in which they start.
-/

namespace Breakpoint.Frames

open Operation

variable {τ : Type}

/-! ## Sessions -/

/-- What the host of a schedule does next. -/
abbrev FrameMove (τ : Type) := Move (Request τ) (Except Fault Unit)

/-- The dealings of a schedule with its host. -/
abbrev FrameSession (τ : Type) := Session (Request τ) (Frames τ) τ (Except Fault Unit) (Option Nat)

/-- What happens in such a session. -/
abbrev Event (τ : Type) := Happening (Request τ) τ (Except Fault Unit) (Option Nat)

/-- The session of a new schedule after some moves. -/
def sessionAfter (moves : List (FrameMove τ)) : FrameSession τ :=
  Session.run perform { state := {} } moves

/-- The tasks that were started, the first first. -/
def startedIn (history : List (Event τ)) : List τ :=
  (history.filterMap fun
    | .called task => some task
    | .begun _ | .answered _ | .ended _ => none).reverse

/-- Whether the host keeps the rules with a move: no task fails, and a flush is not begun by a task
and has no negative limit. -/
def allows (session : FrameSession τ) : FrameMove τ → Bool
  | .begin (.flush limit) => session.isIdle && limit.all (0 ≤ ·)
  | .begin (.after _ _) | .begin (.cancel _) | .answer (.ok _) => true
  | .answer (.error _) => false

/-- Whether the host keeps the rules with every move. -/
def allowsAll (session : FrameSession τ) : List (FrameMove τ) → Bool
  | [] => true
  | move :: moves => allows session move && allowsAll (session.step perform move) moves

/-- Whether a move begins a flush. -/
def isFlush : FrameMove τ → Bool
  | .begin (.flush _) => true
  | .begin (.after _ _) | .begin (.cancel _) | .answer _ => false

/-- How many of the moves end a task. -/
def replies (moves : List (FrameMove τ)) : Nat :=
  moves.countP fun
    | .answer _ => true
    | .begin _ => false

/-- Moves keep the rules if those of their first part do and then the others. -/
theorem allowsAll_append {session : FrameSession τ} {before after : List (FrameMove τ)} :
    allowsAll session (before ++ after) =
      (allowsAll session before && allowsAll (session.run perform before) after) := by
  induction before generalizing session with
  | nil => rfl
  | cons move before ih =>
    rw [List.cons_append, allowsAll, ih, allowsAll, Bool.and_assoc]
    rfl

/-! ## Schedules -/

/-- What a move makes of the schedule. The end of a task makes nothing of it. -/
def served (frames : Frames τ) : FrameMove τ → Frames τ
  | .begin (.after delay task) => frames.schedule delay task
  | .begin (.cancel key) => frames.cancel key
  | .begin (.flush limit) => frames.withoutDue limit
  | .answer _ => frames

/-- The frames that a move takes off the schedule to start them. -/
def takenBy (frames : Frames τ) : FrameMove τ → List (Frame τ)
  | .begin (.flush limit) => frames.due limit
  | .begin (.after _ _) | .begin (.cancel _) | .answer _ => []

/-- The frames that some moves take off the schedule to start them, in this order. -/
def taken (frames : Frames τ) : List (FrameMove τ) → List (Frame τ)
  | [] => []
  | move :: moves => takenBy frames move ++ taken (frames.served move) moves

/-- The frames that some moves schedule, when so many handles were issued before. -/
def scheduledBy (issued : Nat) : List (FrameMove τ) → List (Frame τ)
  | [] => []
  | .begin (.after delay task) :: moves =>
    ⟨issued + 1, delay, task⟩ :: scheduledBy (issued + 1) moves
  | .begin (.cancel _) :: moves | .begin (.flush _) :: moves | .answer _ :: moves =>
    scheduledBy issued moves

/-- The frames that moves take are those of their first part and then those of the others. -/
theorem taken_append (frames : Frames τ) (before after : List (FrameMove τ)) :
    taken frames (before ++ after) =
      taken frames before ++ taken (before.foldl served frames) after := by
  induction before generalizing frames with
  | nil => rfl
  | cons move before ih =>
    simp only [List.cons_append, taken, ih, List.append_assoc, List.foldl_cons]

/-- Only the request for a flush is one, whatever its limit. -/
theorem exists_of_isFlush {move : FrameMove τ} (h : isFlush move = true) :
    ∃ limit, move = .begin (.flush limit) := by
  cases move with
  | answer reply => cases h
  | begin request =>
    cases request with
    | flush limit => exact ⟨limit, rfl⟩
    | after delay task => cases h
    | cancel key => cases h

/-- No move but a flush takes frames off the schedule. -/
theorem takenBy_of_not_flush {frames : Frames τ} {move : FrameMove τ} (h : isFlush move = false) :
    takenBy frames move = [] := by
  cases move with
  | answer reply => rfl
  | begin request =>
    cases request with
    | flush limit => cases h
    | after delay task => rfl
    | cancel key => rfl

/-- Moves without a flush take no frames off the schedule. -/
theorem taken_of_no_flush {frames : Frames τ} {moves : List (FrameMove τ)}
    (h : ∀ move ∈ moves, isFlush move = false) : taken frames moves = [] := by
  induction moves generalizing frames with
  | nil => rfl
  | cons move moves ih =>
    rw [List.forall_mem_cons] at h
    rw [taken, takenBy_of_not_flush h.1, ih h.2, List.append_nil]

/-- What is taken and what waits in the end is in the order in which it came. -/
theorem taken_sublist (frames : Frames τ) (moves : List (FrameMove τ)) :
    (taken frames moves ++ (moves.foldl served frames).scheduled).Sublist
      (frames.scheduled ++ scheduledBy frames.issued moves) := by
  induction moves generalizing frames with
  | nil => exact List.sublist_append_left _ _
  | cons move moves ih =>
    have hrest := ih (frames.served move)
    cases move with
    | answer reply => exact hrest
    | begin request =>
      cases request with
      | after delay task =>
        have hplace : (frames.schedule delay task).scheduled =
            frames.scheduled ++ [⟨frames.issued + 1, delay, task⟩] := rfl
        rw [served, hplace, List.append_assoc] at hrest
        exact hrest
      | cancel key =>
        exact hrest.trans (List.filter_sublist.append_right _)
      | flush limit =>
        have hsplit : frames.due limit ++ (frames.withoutDue limit).scheduled = frames.scheduled :=
          List.take_append_drop _ _
        rw [taken, List.append_assoc, ← hsplit, List.append_assoc]
        exact hrest.append_left _

/-- Handles are issued upwards. -/
theorem handles_scheduledBy (issued : Nat) (moves : List (FrameMove τ)) :
    (∀ frame ∈ scheduledBy issued moves, issued < frame.handle) ∧
      ((scheduledBy issued moves).map (·.handle)).Pairwise (· < ·) := by
  induction moves generalizing issued with
  | nil => simp [scheduledBy]
  | cons move moves ih =>
    cases move with
    | answer reply => exact ih issued
    | begin request =>
      cases request with
      | cancel key => exact ih issued
      | flush limit => exact ih issued
      | after delay task =>
        obtain ⟨habove, hupwards⟩ := ih (issued + 1)
        constructor
        · intro frame hframe
          rcases List.mem_cons.1 hframe with rfl | hlater
          · exact Nat.lt_succ_self issued
          · exact Nat.lt_of_succ_lt (habove frame hlater)
        · refine List.pairwise_cons.2 ⟨?_, hupwards⟩
          intro handle hhandle
          obtain ⟨frame, hframe, rfl⟩ := List.mem_map.1 hhandle
          exact habove frame hframe

/-- A frame waits until a flush takes it or its handle is cancelled. -/
theorem mem_scheduled_later {frames : Frames τ} {frame : Frame τ} {moves : List (FrameMove τ)}
    (hmoves : ∀ move ∈ moves, isFlush move = false)
    (hkept : ∀ key : FrameKey, .begin (.cancel key) ∈ moves → key.toInt ≠ frame.handle)
    (h : frame ∈ frames.scheduled) : frame ∈ (moves.foldl served frames).scheduled := by
  induction moves generalizing frames with
  | nil => exact h
  | cons move moves ih =>
    rw [List.forall_mem_cons] at hmoves
    refine ih hmoves.2 (fun key hkey => hkept key (List.mem_cons_of_mem _ hkey)) ?_
    cases move with
    | answer reply => exact h
    | begin request =>
      cases request with
      | flush limit => cases hmoves.1
      | after delay task => exact List.mem_append_left _ h
      | cancel key =>
        refine List.mem_filter.2 ⟨h, ?_⟩
        have hother := hkept key List.mem_cons_self
        simpa using hother.symm

/-- A limit that is not negative is that of the first frames. -/
theorem dueCount_eq_min {frames : Frames τ} {limit : Option Int}
    (h : limit.all (0 ≤ ·) = true) :
    frames.dueCount limit =
      limit.elim frames.scheduled.length fun limit => min limit.toNat frames.scheduled.length := by
  cases limit with
  | none => rfl
  | some limit =>
    cases limit with
    | ofNat limit => rfl
    | negSucc limit => cases h

/-! ## What each move does -/

/-- What is left to do of a flush that counts so many frames. -/
def flushing (left : List (Frame τ)) (count : Nat) :
    Operation (Frames τ) τ (Except Fault Unit) (Option Nat) := do
  forAll (fun frame => callOrFail frame.task) left
  return some count

/-- How a flush goes on when a task ends. -/
def resume (left : List (Frame τ)) (count : Nat) (reply : Except Fault Unit) (frames : Frames τ) :
    Dialogue (Frames τ) τ (Except Fault Unit) (Option Nat) :=
  (lift reply >>= fun _ => flushing left count) frames

/-- A flush starts the frames that are due when they have left the schedule. -/
theorem perform_flush (limit : Option Int) (frames : Frames τ) :
    perform (.flush limit) frames =
      flushing (frames.due limit) (frames.due limit).length (frames.withoutDue limit) := by
  simp only [perform, flush, flushing, bind_assoc, pure_bind, get_bind]
  rfl

/-- A flush calls the task of its next frame. -/
theorem flushing_cons (frame : Frame τ) (left : List (Frame τ)) (count : Nat) (frames : Frames τ) :
    flushing (frame :: left) count frames = .call frame.task frames (resume left count) := by
  simp only [flushing, forAll, callOrFail, bind_assoc]
  rfl

/-- A task that is called is the last that was started. -/
theorem startedIn_called (task : τ) (history : List (Event τ)) :
    startedIn (.called task :: history) = startedIn history ++ [task] :=
  List.reverse_cons

/-- The session after a flush has gone on: it has started its next frame, or it has ended. -/
theorem advance_flushing {session : FrameSession τ} (hfree : session.waiting = [])
    (left : List (Frame τ)) (count : Nat) (frames : Frames τ) :
    let after := session.advance (flushing left count frames)
    after.state = frames ∧
      after.waiting = (if left = [] then [] else [resume left.tail count]) ∧
      startedIn after.history = startedIn session.history ++ (left.take 1).map (·.task) ∧
      (left = [] → after.history.head? = some (.ended (.ok (some count)))) := by
  cases left with
  | nil =>
    refine ⟨rfl, hfree, ?_, fun _ => rfl⟩
    exact (List.append_nil _).symm
  | cons frame left =>
    intro after
    have hafter : after = session.advance (.call frame.task frames (resume left count)) :=
      congrArg session.advance (flushing_cons frame left count frames)
    refine ⟨hafter ▸ rfl, ?_, ?_, nofun⟩
    · rw [hafter]
      exact congrArg (_ :: ·) hfree
    · rw [hafter]
      exact startedIn_called _ _

/-! ## Flushes -/

/-- A flush has taken some frames off the schedule, when some tasks had been started before. Since
then the host has made some moves, in which each task that has ended has started the next. -/
structure Attends (earlier : List τ) (frames : Frames τ) (due : List (Frame τ))
    (during : List (FrameMove τ)) (session : FrameSession τ) : Prop where
  state : session.state = during.foldl served frames
  waiting : session.waiting = if due.length ≤ replies during then []
    else [resume (due.drop (replies during + 1)) due.length]
  started : startedIn session.history = earlier ++ (due.take (replies during + 1)).map (·.task)

section Attending

variable {earlier : List τ} {frames : Frames τ} {due : List (Frame τ)}
  {during : List (FrameMove τ)} {session : FrameSession τ}

/-- The last move may end one more task. -/
theorem replies_concat (moves : List (FrameMove τ)) (move : FrameMove τ) :
    replies (moves ++ [move]) = replies moves + replies [move] :=
  List.countP_append

/-- Where no operation is under way, all frames that were taken have started. -/
theorem attends_nothing (hidle : session.isIdle = true) :
    Attends (startedIn session.history) session.state [] [] session where
  state := rfl
  waiting := List.isEmpty_iff.1 hidle
  started := (List.append_nil _).symm

/-- A flush begins with its first frame. -/
theorem attends_flush (hidle : session.isIdle = true) (limit : Option Int) :
    Attends (startedIn session.history) (session.state.withoutDue limit) (session.state.due limit) []
        (session.step perform (.begin (.flush limit))) ∧
      (session.state.due limit = [] →
        (session.step perform (.begin (.flush limit))).history.head? = some (.ended (.ok (some 0)))) := by
  have hfree : (session.note (.begun (.flush limit))).waiting = [] := List.isEmpty_iff.1 hidle
  have hstep : session.step perform (.begin (.flush limit)) =
      (session.note (.begun (.flush limit))).advance (flushing (session.state.due limit)
        (session.state.due limit).length (session.state.withoutDue limit)) :=
    congrArg (session.note (.begun (.flush limit))).advance (perform_flush limit session.state)
  obtain ⟨hstate, hwaiting, hstarted, hended⟩ := advance_flushing hfree (session.state.due limit)
    (session.state.due limit).length (session.state.withoutDue limit)
  rw [hstep]
  refine ⟨⟨hstate, ?_, hstarted⟩, ?_⟩
  · have hlast : (session.state.due limit).length ≤ replies ([] : List (FrameMove τ)) ↔
        session.state.due limit = [] := Nat.le_zero.trans List.length_eq_zero_iff
    rw [hwaiting, ← List.drop_one]
    simp only [hlast]
    rfl
  · intro hnone
    rw [hended hnone, hnone]
    rfl

/-- A flush is over when as many tasks have ended as it took frames. -/
theorem Attends.isIdle_eq (h : Attends earlier frames due during session) :
    session.isIdle = decide (due.length ≤ replies during) := by
  rw [Session.isIdle, h.waiting]
  by_cases hover : due.length ≤ replies during
  · rw [if_pos hover, decide_eq_true hover, List.isEmpty_nil]
  · rw [if_neg hover, decide_eq_false hover, List.isEmpty_cons]

/-- When the flush is over, all that it has taken has started. -/
theorem Attends.started_of_isIdle (h : Attends earlier frames due during session)
    (hidle : session.isIdle = true) :
    startedIn session.history = earlier ++ due.map (·.task) := by
  rw [h.isIdle_eq, decide_eq_true_eq] at hidle
  rw [h.started, List.take_of_length_le (Nat.le_succ_of_le hidle)]

/-- The end of a task starts the next frame of the flush that is under way, or ends the flush. -/
theorem Attends.answer (h : Attends earlier frames due during session) :
    Attends earlier frames due (during ++ [.answer (.ok ())])
        (session.step perform (.answer (.ok ()))) ∧
      (session.isIdle = false → (session.step perform (.answer (.ok ()))).isIdle = true →
        (session.step perform (.answer (.ok ()))).history.head? =
          some (.ended (.ok (some due.length)))) := by
  have hreplies : replies (during ++ [(.answer (.ok ()) : FrameMove τ)]) = replies during + 1 :=
    replies_concat _ _
  have hserved : (during ++ [(.answer (.ok ()) : FrameMove τ)]).foldl served frames =
      during.foldl served frames := List.foldl_append
  have hwaiting := h.waiting
  by_cases hover : due.length ≤ replies during
  -- nothing waits for the answer
  · have hidle : session.isIdle = true := by rw [h.isIdle_eq, decide_eq_true hover]
    have hsame : session.step perform (.answer (.ok ())) = session := by
      rw [if_pos hover] at hwaiting
      rw [Session.step, hwaiting]
    rw [hsame]
    refine ⟨⟨h.state.trans hserved.symm, ?_, ?_⟩, ?_⟩
    · rw [hreplies, hwaiting, if_pos hover, if_pos (Nat.le_succ_of_le hover)]
    · rw [hreplies, h.started, List.take_of_length_le (Nat.le_succ_of_le hover),
        List.take_of_length_le (by omega)]
    · intro hbusy
      cases hidle.symm.trans hbusy
  · rw [if_neg hover] at hwaiting
    have hstep : session.step perform (.answer (.ok ())) =
        ({ session with waiting := [] }.note (.answered (.ok ()))).advance
          (flushing (due.drop (replies during + 1)) due.length session.state) := by
      rw [Session.step, hwaiting]
      rfl
    have hfree : ({ session with waiting := [] }.note (.answered (.ok ()))).waiting = [] := rfl
    obtain ⟨hstate, hnow, hstarted, hended⟩ :=
      advance_flushing hfree (due.drop (replies during + 1)) due.length session.state
    have hlast : due.drop (replies during + 1) = [] ↔ due.length ≤ replies during + 1 :=
      List.drop_eq_nil_iff
    rw [hstep]
    refine ⟨⟨?_, ?_, ?_⟩, ?_⟩
    · rw [hstate, h.state, hserved]
    · rw [hnow, hreplies, ← List.drop_one, List.drop_drop]
      simp only [hlast]
    · have hearlier : startedIn ({ session with waiting := [] }.note (.answered (.ok ()))).history =
          startedIn session.history := rfl
      rw [hstarted, hearlier, h.started, hreplies, List.append_assoc, ← List.map_append,
        ← List.take_add]
    · intro _ hidle
      apply hended
      refine Classical.byContradiction fun hleft => ?_
      rw [Session.isIdle, hnow, if_neg hleft] at hidle
      cases hidle

/-- A move that is no flush is part of the flush that is under way. -/
theorem Attends.step {move : FrameMove τ} (h : Attends earlier frames due during session)
    (hflush : isFlush move = false) (hallows : allows session move = true) :
    Attends earlier frames due (during ++ [move]) (session.step perform move) ∧
      (session.isIdle = false → (session.step perform move).isIdle = true →
        (session.step perform move).history.head? = some (.ended (.ok (some due.length)))) := by
  cases move with
  | answer reply =>
    cases reply with
    | ok result => exact h.answer
    | error fault => cases hallows
  | begin request =>
    have hreplies : replies (during ++ [.begin request]) = replies during := replies_concat _ _
    have hstays : Attends earlier frames due (during ++ [.begin request])
        (session.step perform (.begin request)) := by
      cases request with
      | flush limit => cases hflush
      | after delay task | cancel key =>
        refine ⟨?_, ?_, ?_⟩
        · rw [List.foldl_append, ← h.state]
          rfl
        · rw [hreplies, ← h.waiting]
          rfl
        · rw [hreplies, ← h.started]
          rfl
    refine ⟨hstays, ?_⟩
    intro hbusy hidle
    rw [hstays.isIdle_eq, hreplies, ← h.isIdle_eq, hbusy] at hidle
    cases hidle

/-- So are all moves up to the next flush. -/
theorem Attends.run {moves : List (FrameMove τ)} (h : Attends earlier frames due during session)
    (hmoves : ∀ move ∈ moves, isFlush move = false) (hallows : allowsAll session moves = true) :
    Attends earlier frames due (during ++ moves) (session.run perform moves) := by
  induction moves generalizing session during with
  | nil =>
    rw [List.append_nil]
    exact h
  | cons move moves ih =>
    rw [List.forall_mem_cons] at hmoves
    rw [allowsAll, Bool.and_eq_true] at hallows
    have hrest := ih (h.step hmoves.1 hallows.1).1 hmoves.2 hallows.2
    rw [List.append_assoc] at hrest
    exact hrest

/-- The move with which a flush is over ends it, with the number of its frames. -/
theorem head?_of_flush_over {limit : Option Int} {moves : List (FrameMove τ)}
    (hidle : session.isIdle = true) (hmoves : ∀ move ∈ moves, isFlush move = false)
    (hallows : allowsAll (session.step perform (.begin (.flush limit))) moves = true)
    (hover : (session.run perform (.begin (.flush limit) :: moves)).isIdle = true)
    (hbusy : ∀ before last, moves = before ++ [last] →
      (session.run perform (.begin (.flush limit) :: before)).isIdle = false) :
    (session.run perform (.begin (.flush limit) :: moves)).history.head? =
      some (.ended (.ok (some (session.state.due limit).length))) := by
  obtain ⟨hbegun, hended⟩ := attends_flush hidle limit
  rcases List.eq_nil_or_concat' moves with rfl | ⟨before, last, rfl⟩
  · have hnone : session.state.due limit = [] := by
      have hcount := hbegun.isIdle_eq.symm.trans hover
      exact List.length_eq_zero_iff.1 (Nat.le_zero.1 (of_decide_eq_true hcount))
    rw [hnone]
    exact hended hnone
  · rw [allowsAll_append, Bool.and_eq_true, allowsAll, Bool.and_eq_true] at hallows
    rw [List.forall_mem_append] at hmoves
    have hrun : session.run perform (.begin (.flush limit) :: (before ++ [last])) =
        (session.run perform (.begin (.flush limit) :: before)).step perform last :=
      List.foldl_append
    have hbefore := hbegun.run hmoves.1 hallows.1
    rw [hrun] at hover ⊢
    exact (hbefore.step (hmoves.2 last List.mem_cons_self) hallows.2.1).2 (hbusy before last rfl) hover

/-- At every moment of a session the frames that were taken before the last flush have started, and
of those that it has taken the first. -/
theorem Attends.run_all {moves : List (FrameMove τ)} (h : Attends earlier frames due during session)
    (hallows : allowsAll session moves = true) :
    (session.run perform moves).state = moves.foldl served session.state ∧
      ∃ earlier' frames' due' during',
        Attends earlier' frames' due' during' (session.run perform moves) ∧
          earlier' ++ due'.map (·.task) =
            earlier ++ (due ++ taken session.state moves).map (·.task) := by
  induction moves generalizing session earlier frames due during with
  | nil =>
    refine ⟨rfl, earlier, frames, due, during, h, ?_⟩
    rw [taken, List.append_nil]
  | cons move moves ih =>
    rw [allowsAll, Bool.and_eq_true] at hallows
    obtain ⟨hallowed, hallowedRest⟩ := hallows
    cases hflush : isFlush move with
    | true =>
      obtain ⟨limit, rfl⟩ := exists_of_isFlush hflush
      have hidle : session.isIdle = true := (Bool.and_eq_true_iff.1 hallowed).1
      have hbegun := (attends_flush hidle limit).1
      have hserved := hbegun.state
      obtain ⟨hstate, earlier', frames', due', during', hattends, hall⟩ := ih hbegun hallowedRest
      rw [hserved] at hstate hall
      refine ⟨hstate, earlier', frames', due', during', hattends, ?_⟩
      rw [hall, h.started_of_isIdle hidle, taken]
      simp only [List.map_append, List.append_assoc]
      rfl
    | false =>
      have hstep := (h.step hflush hallowed).1
      have hserved : (session.step perform move).state = served session.state move := by
        rw [hstep.state, List.foldl_append, ← h.state]
        rfl
      obtain ⟨hstate, hattends⟩ := ih hstep hallowedRest
      rw [hserved] at hstate hattends
      refine ⟨hstate, ?_⟩
      have hnone : takenBy session.state move = [] := takenBy_of_not_flush hflush
      rw [taken, hnone, List.nil_append]
      exact hattends

end Attending

/-! ## Whole sessions -/

/-- More moves go on from the session after the first. -/
theorem sessionAfter_append (before after : List (FrameMove τ)) :
    sessionAfter (before ++ after) = (sessionAfter before).run perform after :=
  List.foldl_append

/-- The tasks that have started are those of the first frames that were taken, and of all of them
while no flush is under way. -/
theorem started_sessionAfter {moves : List (FrameMove τ)}
    (hallows : allowsAll (sessionAfter []) moves = true) :
    (sessionAfter moves).state = moves.foldl served {} ∧
      startedIn (sessionAfter moves).history <+: (taken {} moves).map (·.task) ∧
      ((sessionAfter moves).isIdle = true →
        startedIn (sessionAfter moves).history = (taken {} moves).map (·.task)) := by
  have hnew : (sessionAfter ([] : List (FrameMove τ))).isIdle = true := rfl
  obtain ⟨hstate, earlier, frames, due, during, hattends, hall⟩ :=
    (attends_nothing hnew).run_all hallows
  have htaken : earlier ++ due.map (·.task) = (taken {} moves).map (·.task) := hall
  refine ⟨hstate, ?_, ?_⟩
  · rw [← htaken]
    show startedIn ((sessionAfter []).run perform moves).history <+: _
    rw [hattends.started]
    exact List.prefix_append_right_inj _ |>.2 ((List.take_prefix _ _).map _)
  · intro hidle
    exact (hattends.started_of_isIdle hidle).trans htaken

/-- What holds of a session in which no task fails and no flush is begun by a task, at every moment.
The frames that flushes take off the schedule are some of those that were scheduled, in the order of
their handles, and the tasks that have started are those of the first of them. A flush takes as many
frames as it is allowed to, the first of the schedule, and all that were taken before have started
then. Each task that ends makes the flush start the next of its frames; after the last it ends, with
the number of its frames. What is scheduled meanwhile and not cancelled afterwards still waits. -/
theorem frames_start_in_order (moves : List (FrameMove τ))
    (hallows : allowsAll (sessionAfter []) moves = true) :
    let session := sessionAfter moves
    (taken {} moves).Sublist (scheduledBy 0 moves) ∧
      ((taken {} moves).map (·.handle)).Pairwise (· < ·) ∧
      (∃ started, started <+: taken {} moves ∧
        startedIn session.history = started.map (·.task)) ∧
      ∀ before limit during, moves = before ++ .begin (.flush limit) :: during →
        (∀ move ∈ during, isFlush move = false) →
        let opening := sessionAfter before
        let count := limit.elim opening.state.scheduled.length fun limit =>
          min limit.toNat opening.state.scheduled.length
        let due := opening.state.scheduled.take count
        taken {} moves = taken {} before ++ due ∧
          startedIn opening.history = (taken {} before).map (·.task) ∧
          startedIn session.history =
            startedIn opening.history ++ (due.take (replies during + 1)).map (·.task) ∧
          session.isIdle = decide (count ≤ replies during) ∧
          (session.isIdle = true →
            (∀ earlier last, during = earlier ++ [last] →
              (sessionAfter (before ++ .begin (.flush limit) :: earlier)).isIdle = false) →
            session.history.head? = some (.ended (.ok (some count)))) ∧
          ∀ first delay task rest, during = first ++ .begin (.after delay task) :: rest →
            let handle := (sessionAfter (before ++ .begin (.flush limit) :: first)).state.nextHandle
            (∀ key : FrameKey, .begin (.cancel key) ∈ rest → key.toInt ≠ handle) →
              ⟨handle, delay, task⟩ ∈ session.state.scheduled := by
  intro session
  obtain ⟨hstate, hprefix, -⟩ := started_sessionAfter hallows
  have hsublist : (taken {} moves).Sublist (scheduledBy 0 moves) :=
    (List.sublist_append_left _ _).trans (taken_sublist {} moves)
  refine ⟨hsublist, ?_, ?_, ?_⟩
  · exact (handles_scheduledBy 0 moves).2.sublist (hsublist.map _)
  · refine ⟨(taken {} moves).take (startedIn session.history).length, List.take_prefix _ _, ?_⟩
    rw [List.map_take]
    exact List.prefix_iff_eq_take.1 hprefix
  · rintro before limit during rfl hduring opening count due
    rw [allowsAll_append, Bool.and_eq_true, allowsAll, Bool.and_eq_true] at hallows
    obtain ⟨hbefore, hallowed, hallowedDuring⟩ := hallows
    obtain ⟨hidle, hlimit⟩ := Bool.and_eq_true_iff.1 hallowed
    obtain ⟨hopening, -, hstarted⟩ := started_sessionAfter hbefore
    have hdue : opening.state.due limit = due := congrArg (List.take · _) (dueCount_eq_min hlimit)
    have hcount : due.length = count := by
      rw [List.length_take]
      apply Nat.min_eq_left
      cases limit with
      | none => exact Nat.le_refl _
      | some limit => exact Nat.min_le_right _ _
    have hrun : ∀ moves, sessionAfter (before ++ .begin (.flush limit) :: moves) =
        opening.run perform (.begin (.flush limit) :: moves) := fun moves => sessionAfter_append _ _
    have hattends : Attends (startedIn opening.history) (opening.state.withoutDue limit)
        due during session := by
      rw [← hdue]
      show Attends _ _ _ _ (sessionAfter (before ++ .begin (.flush limit) :: during))
      rw [hrun during]
      exact (attends_flush hidle limit).1.run hduring hallowedDuring
    refine ⟨?_, hstarted hidle, hattends.started, ?_, ?_, ?_⟩
    · rw [taken_append, taken, taken_of_no_flush hduring, List.append_nil, ← hopening]
      exact congrArg _ hdue
    · rw [hattends.isIdle_eq, hcount]
    · intro hover hbusy
      have hover : (sessionAfter (before ++ .begin (.flush limit) :: during)).isIdle = true := hover
      simp only [hrun] at hover hbusy
      have hhead := head?_of_flush_over hidle hduring hallowedDuring hover hbusy
      have hopened : (opening.state.due limit).length = count := by rw [hdue, hcount]
      rw [← hopened]
      show (sessionAfter (before ++ .begin (.flush limit) :: during)).history.head? = _
      rw [hrun]
      exact hhead
    · rintro first delay task rest rfl handle hkept
      rw [allowsAll_append, Bool.and_eq_true] at hallowedDuring
      rw [List.forall_mem_append, List.forall_mem_cons] at hduring
      have hfirst := (attends_flush hidle limit).1.run hduring.1 hallowedDuring.1
      have hmiddle : (sessionAfter (before ++ .begin (.flush limit) :: first)).state =
          first.foldl served (opening.state.withoutDue limit) := by
        rw [hrun]
        exact hfirst.state
      rw [hattends.state, List.foldl_append, ← hmiddle, List.foldl_cons]
      exact mem_scheduled_later hduring.2.2 hkept (List.mem_append_right _ List.mem_cons_self)

/-- Three tasks are scheduled. -/
def threeTasks : List (FrameMove Nat) :=
  [.begin (.after 16 1), .begin (.after 16 2), .begin (.after 16 3)]

/-- The first task of a flush schedules another and cancels the next one, which starts all the
same. -/
def busyFlush : List (FrameMove Nat) :=
  [.begin (.after 16 4), .begin (.cancel (.number 2)), .answer (.ok ()), .answer (.ok ())]

/-- A flush of two frames starts the first two of three, counts them, and leaves the new one. -/
theorem busyFlush_in_order :
    let session := sessionAfter (threeTasks ++ .begin (.flush (some 2)) :: busyFlush)
    allowsAll (sessionAfter []) (threeTasks ++ .begin (.flush (some 2)) :: busyFlush) = true ∧
      startedIn session.history = [1, 2] ∧
      session.history.head? = some (.ended (.ok (some 2))) ∧
      ⟨4, 16, 4⟩ ∈ session.state.scheduled := by
  intro session
  have hallows : allowsAll (sessionAfter [])
      (threeTasks ++ .begin (.flush (some 2)) :: busyFlush) = true := by decide
  obtain ⟨-, -, -, hflush⟩ := frames_start_in_order _ hallows
  obtain ⟨-, -, hstarted, hidle, hended, hwaits⟩ :=
    hflush threeTasks (some 2) busyFlush rfl (by decide)
  refine ⟨hallows, hstarted, ?_, ?_⟩
  · refine hended hidle ?_
    intro earlier last hlast
    have hbefore : busyFlush.dropLast = earlier := by
      rw [hlast, List.dropLast_concat]
    subst hbefore
    decide
  · refine hwaits [] 16 4 _ rfl ?_
    intro key hkey
    have hsecond : key = .number 2 := by simpa using hkey
    subst hsecond
    decide

end Breakpoint.Frames
