import Breakpoint.Proofs.Coalescer.FrameOrder
import Mathlib.Data.List.Nodup

/-!
# Where the frames of a schedule are

A frame waits on the schedule until a flush takes it or its handle is cancelled. A flush holds the
frames that it has taken until it comes to them, and tasks may begin further flushes meanwhile, so
several may hold frames at once. A flush that a task ends with a fault lets go of what it holds.

So each frame is in one of five places: on the schedule, held by a flush under way, started,
withdrawn or lost. Here nothing is asked of the host: tasks may fail, and may begin flushes.
-/

namespace Breakpoint.Frames

open Operation

variable {τ : Type}

/-- A flush that is under way: the frames that it has taken and not started yet, and how many it has
taken. -/
structure Batch (τ : Type) where
  left : List (Frame τ)
  count : Nat

/-- Where the frames of a schedule are. -/
structure Whereabouts (τ : Type) where
  frames : Frames τ := {}
  /-- The flushes that are under way, the last first. -/
  batches : List (Batch τ) := []
  /-- The frames that have started, the first first. -/
  started : List (Frame τ) := []
  /-- The frames that were on the schedule when they were cancelled. -/
  withdrawn : List (Frame τ) := []
  /-- The frames that a flush held when one of its tasks failed. -/
  lost : List (Frame τ) := []

namespace Whereabouts

/-- A flush starts the next of its frames, or is over. -/
def proceed (places : Whereabouts τ) (count : Nat) : List (Frame τ) → Whereabouts τ
  | [] => places
  | frame :: left =>
    { places with
      batches := ⟨left, count⟩ :: places.batches
      started := places.started ++ [frame] }

/-- When a task has ended, the last flush proceeds. When one has failed, that flush is over. -/
def endTask (places : Whereabouts τ) (reply : Except Fault Unit) : Whereabouts τ :=
  match places.batches, reply with
  | [], _ => places
  | batch :: batches, .ok _ => { places with batches }.proceed batch.count batch.left
  | batch :: batches, .error _ => { places with batches, lost := places.lost ++ batch.left }

/-- Where the frames are after a move. -/
def step (places : Whereabouts τ) : FrameMove τ → Whereabouts τ
  | .begin (.after delay task) => { places with frames := places.frames.schedule delay task }
  | .begin (.cancel key) =>
    { places with
      frames := places.frames.cancel key
      withdrawn := places.withdrawn ++
        places.frames.scheduled.filter fun frame => (frame.handle : Int) = key.toInt }
  | .begin (.flush limit) =>
    { places with frames := places.frames.withoutDue limit }.proceed
      (places.frames.due limit).length (places.frames.due limit)
  | .answer reply => places.endTask reply

/-- The frames that flushes hold. -/
def held (places : Whereabouts τ) : List (Frame τ) := places.batches.flatMap (·.left)

/-- All frames, place by place. -/
def everywhere (places : Whereabouts τ) : List (Frame τ) :=
  places.frames.scheduled ++ (places.held ++ (places.started ++ (places.withdrawn ++ places.lost)))

end Whereabouts

/-- Where the frames of a new schedule are after some moves. -/
def whereabouts (moves : List (FrameMove τ)) : Whereabouts τ := moves.foldl Whereabouts.step {}

/-- The handles that were cancelled. -/
def cancelledHandles (frames : Frames τ) : List Int := frames.cancelled.map (·.toInt)

/-! ## The session and the places -/

/-- The places are those of the frames of a session: what waits in the session is to start the
frames that are held, and the tasks that were called are those of the started frames. -/
structure Whereabouts.Depicts (places : Whereabouts τ) (session : FrameSession τ) : Prop where
  state : session.state = places.frames
  waiting : session.waiting = places.batches.map fun batch => resume batch.left batch.count
  started : startedIn session.history = places.started.map (·.task)

namespace Whereabouts

variable {places : Whereabouts τ} {session : FrameSession τ}

/-- What a flush does next, it does in the session. -/
theorem depicts_proceed
    (hwaiting : session.waiting = places.batches.map fun batch => resume batch.left batch.count)
    (hstarted : startedIn session.history = places.started.map (·.task)) (count : Nat)
    (left : List (Frame τ)) :
    (places.proceed count left).Depicts (session.advance (flushing left count places.frames)) := by
  cases left with
  | nil => exact ⟨rfl, hwaiting, hstarted⟩
  | cons frame left =>
    rw [flushing_cons]
    refine ⟨rfl, congrArg (_ :: ·) hwaiting, ?_⟩
    show startedIn (.called frame.task :: session.history) = (places.started ++ [frame]).map (·.task)
    rw [startedIn_called, hstarted, List.map_append]
    rfl

/-- The places after a move are those of the session after it. -/
theorem Depicts.step (h : places.Depicts session) (move : FrameMove τ) :
    (places.step move).Depicts (session.step perform move) := by
  cases move with
  | begin request =>
    cases request with
    | after delay task =>
      exact ⟨congrArg (Frames.schedule · delay task) h.state, h.waiting, h.started⟩
    | cancel key => exact ⟨congrArg (Frames.cancel · key) h.state, h.waiting, h.started⟩
    | flush limit =>
      simp only [Session.step, perform_flush, h.state, Whereabouts.step]
      refine depicts_proceed ?_ ?_ _ _
      · exact h.waiting
      · exact h.started
  | answer reply =>
    have hwaiting := h.waiting
    cases hbatches : places.batches with
    | nil =>
      rw [hbatches, List.map_nil] at hwaiting
      simp only [Session.step, hwaiting, Whereabouts.step, endTask, hbatches]
      exact h
    | cons batch batches =>
      rw [hbatches, List.map_cons] at hwaiting
      simp only [Session.step, hwaiting, Whereabouts.step, endTask, hbatches, h.state]
      cases reply with
      | ok result =>
        refine depicts_proceed ?_ ?_ _ _
        · rfl
        · exact h.started
      | error fault => exact ⟨rfl, rfl, h.started⟩

/-- The places after some moves are those of the session after them. -/
theorem Depicts.run (h : places.Depicts session) (moves : List (FrameMove τ)) :
    (moves.foldl Whereabouts.step places).Depicts (session.run perform moves) := by
  induction moves generalizing places session with
  | nil => exact h
  | cons move moves ih => exact ih (h.step move)

/-- After any moves, the places are those of the frames of the session. -/
theorem depicts_sessionAfter (moves : List (FrameMove τ)) :
    (whereabouts moves).Depicts (sessionAfter moves) :=
  Depicts.run ⟨rfl, rfl, rfl⟩ moves

end Whereabouts

/-! ## Each frame is in one place -/

/-- A schedule issues its handles one by one. -/
theorem handles_scheduledBy_eq (issued : Nat) (moves : List (FrameMove τ)) :
    (scheduledBy issued moves).map (·.handle) =
      List.range' (issued + 1) (scheduledBy issued moves).length := by
  induction moves generalizing issued with
  | nil => rfl
  | cons move moves ih =>
    cases move with
    | answer reply => exact ih issued
    | begin request =>
      cases request with
      | cancel key => exact ih issued
      | flush limit => exact ih issued
      | after delay task => exact congrArg (List.cons (issued + 1)) (ih (issued + 1))

/-- The frames that some moves schedule are those of the first move and then those of the others. -/
theorem scheduledBy_cons (frames : Frames τ) (move : FrameMove τ) (moves : List (FrameMove τ)) :
    scheduledBy frames.issued (move :: moves) =
      scheduledBy frames.issued [move] ++ scheduledBy (served frames move).issued moves := by
  cases move with
  | answer reply => rfl
  | begin request => cases request <;> rfl

/-- So many handles are issued as frames are scheduled. -/
theorem issued_served (frames : Frames τ) (moves : List (FrameMove τ)) :
    (moves.foldl served frames).issued =
      frames.issued + (scheduledBy frames.issued moves).length := by
  induction moves generalizing frames with
  | nil => rfl
  | cons move moves ih =>
    rw [List.foldl_cons, ih, scheduledBy_cons, List.length_append, ← Nat.add_assoc]
    congr 1
    cases move with
    | answer reply => rfl
    | begin request => cases request <;> rfl

namespace Whereabouts

variable {places : Whereabouts τ}

/-- The schedule does not change when a flush goes on. -/
@[simp] theorem frames_proceed (places : Whereabouts τ) (count : Nat) (left : List (Frame τ)) :
    (places.proceed count left).frames = places.frames := by
  cases left <;> rfl

/-- Nothing is withdrawn when a flush goes on. -/
@[simp] theorem withdrawn_proceed (places : Whereabouts τ) (count : Nat) (left : List (Frame τ)) :
    (places.proceed count left).withdrawn = places.withdrawn := by
  cases left <;> rfl

/-- Nothing is lost when a flush goes on. -/
@[simp] theorem lost_proceed (places : Whereabouts τ) (count : Nat) (left : List (Frame τ)) :
    (places.proceed count left).lost = places.lost := by
  cases left <;> rfl

/-- A move makes of the schedule what it does in a session. -/
theorem frames_step (places : Whereabouts τ) (move : FrameMove τ) :
    (places.step move).frames = served places.frames move := by
  cases move with
  | begin request =>
    cases request with
    | after delay task => rfl
    | cancel key => rfl
    | flush limit => exact frames_proceed _ _ _
  | answer reply =>
    show (places.endTask reply).frames = places.frames
    unfold endTask
    split
    · rfl
    · exact frames_proceed _ _ _
    · rfl

/-- Moves make of the schedule what they do in a session. -/
theorem frames_run (places : Whereabouts τ) (moves : List (FrameMove τ)) :
    (moves.foldl step places).frames = moves.foldl served places.frames := by
  induction moves generalizing places with
  | nil => rfl
  | cons move moves ih => rw [List.foldl_cons, ih, frames_step, List.foldl_cons]

/-- A flush that proceeds holds all that it has taken but the first, which has started. -/
theorem everywhere_proceed (places : Whereabouts τ) (count : Nat) (left : List (Frame τ)) :
    (places.proceed count left).everywhere.Perm (places.everywhere ++ left) := by
  classical
  cases left with
  | nil => rw [List.append_nil]; rfl
  | cons frame left =>
    rw [List.perm_iff_count]
    intro other
    simp only [proceed, everywhere, held, List.flatMap_cons, List.count_append, List.count_cons,
      List.count_nil]
    omega

/-- A move schedules frames, and moves those that were scheduled from place to place. -/
theorem everywhere_step (places : Whereabouts τ) (move : FrameMove τ) :
    (places.step move).everywhere.Perm
      (places.everywhere ++ scheduledBy places.frames.issued [move]) := by
  classical
  cases move with
  | begin request =>
    cases request with
    | after delay task =>
      rw [List.perm_iff_count]
      intro frame
      simp only [step, everywhere, held, schedule, nextHandle, scheduledBy, List.count_append]
      omega
    | cancel key =>
      have hsplit := fun frame =>
        (List.filter_append_perm (fun other : Frame τ => decide ((other.handle : Int) = key.toInt))
          places.frames.scheduled).count_eq frame
      rw [List.perm_iff_count]
      intro frame
      have hframe := hsplit frame
      simp only [step, everywhere, held, Frames.cancel, scheduledBy, List.count_append,
        List.count_nil, ne_eq, decide_not] at hframe ⊢
      omega
    | flush limit =>
      refine (everywhere_proceed _ _ _).trans ?_
      -- The flush parts the schedule: what is due, it takes, and the rest stays.
      have hsplit : places.frames.due limit ++ (places.frames.withoutDue limit).scheduled =
          places.frames.scheduled := List.take_append_drop _ _
      rw [List.perm_iff_count]
      intro frame
      have hframe := congrArg (List.count frame) hsplit
      simp only [everywhere, held, scheduledBy, List.count_append, List.count_nil] at hframe ⊢
      omega
  | answer reply =>
    rw [scheduledBy, scheduledBy, List.append_nil]
    cases hbatches : places.batches with
    | nil => simp only [step, endTask, hbatches]; rfl
    | cons batch batches =>
      cases reply with
      | ok result =>
        simp only [step, endTask, hbatches]
        refine (everywhere_proceed _ _ _).trans ?_
        rw [List.perm_iff_count]
        intro frame
        simp only [everywhere, held, hbatches, List.flatMap_cons, List.count_append]
        omega
      | error fault =>
        rw [List.perm_iff_count]
        intro frame
        simp only [step, endTask, everywhere, held, hbatches, List.flatMap_cons, List.count_append]
        omega

/-- At every moment each frame that was scheduled is in one place. -/
theorem everywhere_run (places : Whereabouts τ) (moves : List (FrameMove τ)) :
    (moves.foldl step places).everywhere.Perm
      (places.everywhere ++ scheduledBy places.frames.issued moves) := by
  induction moves generalizing places with
  | nil => rw [scheduledBy, List.append_nil]; rfl
  | cons move moves ih =>
    rw [List.foldl_cons, scheduledBy_cons, ← List.append_assoc, ← frames_step]
    exact (ih (places.step move)).trans ((places.everywhere_step move).append_right _)

/-- The handles that were issued are those of the frames that were scheduled. -/
theorem handles_whereabouts (moves : List (FrameMove τ)) :
    (scheduledBy 0 moves).map (·.handle) = List.range' 1 (whereabouts moves).frames.issued := by
  rw [whereabouts, frames_run, issued_served, handles_scheduledBy_eq]
  show List.range' (0 + 1) _ = List.range' 1 (0 + _)
  rw [Nat.zero_add, Nat.zero_add]

/-- No two frames that were ever scheduled have the same handle. -/
theorem nodup_handles (moves : List (FrameMove τ)) :
    ((scheduledBy 0 moves).map (·.handle)).Nodup := by
  rw [handles_scheduledBy_eq]
  exact List.nodup_range'

/-- The frames in all places are those that were ever scheduled. -/
theorem everywhere_whereabouts (moves : List (FrameMove τ)) :
    (whereabouts moves).everywhere.Perm (scheduledBy 0 moves) :=
  everywhere_run {} moves

/-- No frame is in two places. -/
theorem nodup_everywhere (moves : List (FrameMove τ)) : (whereabouts moves).everywhere.Nodup :=
  (everywhere_whereabouts moves).nodup_iff.2 (.of_map _ (nodup_handles moves))

/-- No two frames bear the same handle. -/
theorem eq_of_handle_eq {moves : List (FrameMove τ)} {first second : Frame τ}
    (hfirst : first ∈ (whereabouts moves).everywhere)
    (hsecond : second ∈ (whereabouts moves).everywhere) (h : first.handle = second.handle) :
    first = second := by
  have hall := everywhere_whereabouts moves
  exact List.inj_on_of_nodup_map (nodup_handles moves) (hall.mem_iff.1 hfirst)
    (hall.mem_iff.1 hsecond) h

section Places

variable {frame : Frame τ}

/-- A frame is on the schedule, held by a flush, started, withdrawn or lost. -/
theorem mem_everywhere : frame ∈ places.everywhere ↔
    frame ∈ places.frames.scheduled ∨ frame ∈ places.held ∨ frame ∈ places.started ∨
      frame ∈ places.withdrawn ∨ frame ∈ places.lost := by
  simp only [everywhere, List.mem_append]

/-- A frame that is held is nowhere else. -/
theorem only_held (h : places.everywhere.Nodup) (hheld : frame ∈ places.held) :
    frame ∉ places.frames.scheduled ∧ frame ∉ places.started ∧ frame ∉ places.withdrawn ∧
      frame ∉ places.lost := by
  obtain ⟨-, hrest, hscheduled⟩ := List.nodup_append.1 h
  obtain ⟨-, -, hothers⟩ := List.nodup_append.1 hrest
  refine ⟨fun hother => ?_, fun hother => ?_, fun hother => ?_, fun hother => ?_⟩
  · exact hscheduled _ hother _ (List.mem_append_left _ hheld) rfl
  · exact hothers _ hheld _ (List.mem_append_left _ hother) rfl
  · exact hothers _ hheld _ (List.mem_append_right _ (List.mem_append_left _ hother)) rfl
  · exact hothers _ hheld _ (List.mem_append_right _ (List.mem_append_right _ hother)) rfl

/-- A frame that has started is nowhere else. -/
theorem only_started (h : places.everywhere.Nodup) (hstarted : frame ∈ places.started) :
    frame ∉ places.frames.scheduled ∧ frame ∉ places.held ∧ frame ∉ places.withdrawn ∧
      frame ∉ places.lost := by
  obtain ⟨-, hrest, hscheduled⟩ := List.nodup_append.1 h
  obtain ⟨-, hothers, hheld⟩ := List.nodup_append.1 hrest
  obtain ⟨-, -, hlast⟩ := List.nodup_append.1 hothers
  refine ⟨fun hother => ?_, fun hother => ?_, fun hother => ?_, fun hother => ?_⟩
  · exact hscheduled _ hother _ (List.mem_append_right _ (List.mem_append_left _ hstarted)) rfl
  · exact hheld _ hother _ (List.mem_append_left _ hstarted) rfl
  · exact hlast _ hstarted _ (List.mem_append_left _ hother) rfl
  · exact hlast _ hstarted _ (List.mem_append_right _ hother) rfl

end Places

/-! ## What becomes of a frame -/

/-- What was started, withdrawn or lost stays so, and what was held is held still, has started or is
lost. -/
structure Follows (places later : Whereabouts τ) : Prop where
  started : places.started ⊆ later.started
  withdrawn : places.withdrawn ⊆ later.withdrawn
  lost : places.lost ⊆ later.lost
  held : ∀ frame ∈ places.held, frame ∈ later.held ∨ frame ∈ later.started ∨ frame ∈ later.lost

/-- The places follow themselves. -/
theorem Follows.refl (places : Whereabouts τ) : places.Follows places where
  started := List.Subset.refl _
  withdrawn := List.Subset.refl _
  lost := List.Subset.refl _
  held _ hheld := .inl hheld

/-- What follows later places follows the earlier ones. -/
theorem Follows.trans {first second third : Whereabouts τ} (hfirst : first.Follows second)
    (hsecond : second.Follows third) : first.Follows third where
  started := List.Subset.trans hfirst.started hsecond.started
  withdrawn := List.Subset.trans hfirst.withdrawn hsecond.withdrawn
  lost := List.Subset.trans hfirst.lost hsecond.lost
  held frame hframe := by
    rcases hfirst.held frame hframe with hheld | hstarted | hlost
    · exact hsecond.held frame hheld
    · exact .inr (.inl (hsecond.started hstarted))
    · exact .inr (.inr (hsecond.lost hlost))

/-- A flush that proceeds holds what it has taken, or starts it. -/
theorem follows_proceed (places : Whereabouts τ) (count : Nat) (left : List (Frame τ)) :
    places.Follows (places.proceed count left) ∧
      ∀ frame ∈ left, frame ∈ (places.proceed count left).held ∨
        frame ∈ (places.proceed count left).started := by
  cases left with
  | nil => exact ⟨.refl _, nofun⟩
  | cons first left =>
    refine ⟨⟨List.subset_append_left _ _, List.Subset.refl _, List.Subset.refl _, ?_⟩, ?_⟩
    · intro frame hframe
      exact .inl (List.mem_append_right left hframe)
    · intro frame hframe
      rcases List.mem_cons.1 hframe with rfl | hlater
      · exact .inr (List.mem_append_right _ List.mem_cons_self)
      · exact .inl (List.mem_append_left _ hlater)

/-- The places after a move follow those before it. -/
theorem follows_step (places : Whereabouts τ) (move : FrameMove τ) :
    places.Follows (places.step move) := by
  cases move with
  | begin request =>
    cases request with
    | after delay task =>
      exact ⟨List.Subset.refl _, List.Subset.refl _, List.Subset.refl _, fun _ => .inl⟩
    | cancel key =>
      exact ⟨List.Subset.refl _, List.subset_append_left _ _, List.Subset.refl _, fun _ => .inl⟩
    | flush limit =>
      have hproceeds := (follows_proceed { places with frames := places.frames.withoutDue limit }
        (places.frames.due limit).length (places.frames.due limit)).1
      exact ⟨hproceeds.started, hproceeds.withdrawn, hproceeds.lost, hproceeds.held⟩
  | answer reply =>
    show places.Follows (places.endTask reply)
    cases hbatches : places.batches with
    | nil =>
      simp only [endTask, hbatches]
      exact .refl places
    | cons batch batches =>
      have hheld : ∀ frame ∈ places.held, frame ∈ batch.left ∨ frame ∈ batches.flatMap (·.left) := by
        intro frame hframe
        rwa [held, hbatches, List.flatMap_cons, List.mem_append] at hframe
      cases reply with
      | ok result =>
        obtain ⟨hproceeds, htaken⟩ := follows_proceed { places with batches } batch.count batch.left
        simp only [endTask, hbatches]
        refine ⟨hproceeds.started, hproceeds.withdrawn, hproceeds.lost, fun frame hframe => ?_⟩
        rcases hheld frame hframe with hleft | hother
        · exact (htaken frame hleft).imp_right .inl
        · exact hproceeds.held frame hother
      | error fault =>
        simp only [endTask, hbatches]
        refine ⟨List.Subset.refl _, List.Subset.refl _, List.subset_append_left _ _,
          fun frame hframe => ?_⟩
        rcases hheld frame hframe with hleft | hother
        · exact .inr (.inr (List.mem_append_right _ hleft))
        · exact .inl hother

/-- The places after some moves follow those before them. -/
theorem follows_run (places : Whereabouts τ) (moves : List (FrameMove τ)) :
    places.Follows (moves.foldl step places) := by
  induction moves generalizing places with
  | nil => exact .refl places
  | cons move moves ih => exact (places.follows_step move).trans (ih (places.step move))

/-- A frame is lost when a task fails whose flush holds the frame and is the last under way. -/
theorem mem_lost_step {frame : Frame τ} {move : FrameMove τ} :
    frame ∈ (places.step move).lost ↔ frame ∈ places.lost ∨
      ∃ fault batch batches, move = .answer (.error fault) ∧ places.batches = batch :: batches ∧
        frame ∈ batch.left := by
  cases move with
  | begin request =>
    cases request with
    | after delay task => simp [step]
    | cancel key => simp [step]
    | flush limit => simp [step]
  | answer reply =>
    cases hbatches : places.batches with
    | nil => simp [step, endTask, hbatches]
    | cons batch batches =>
      cases reply with
      | ok result => simp [step, endTask, hbatches]
      | error fault => simp [step, endTask, hbatches]

/-- A frame is lost where the failure of a task ends the flush that held it. -/
theorem mem_lost_run {frame : Frame τ} {moves : List (FrameMove τ)} :
    frame ∈ (moves.foldl step places).lost ↔ frame ∈ places.lost ∨
      ∃ earlier fault rest, moves = earlier ++ .answer (.error fault) :: rest ∧
        ∃ batch batches, (earlier.foldl step places).batches = batch :: batches ∧
          frame ∈ batch.left := by
  induction moves generalizing places with
  | nil => simp
  | cons move moves ih =>
    rw [List.foldl_cons, ih, mem_lost_step, or_assoc]
    refine or_congr_right ⟨?_, ?_⟩
    · rintro (⟨fault, batch, batches, rfl, hbatches, hleft⟩ | ⟨earlier, fault, rest, rfl, hlost⟩)
      · exact ⟨[], fault, moves, rfl, batch, batches, hbatches, hleft⟩
      · exact ⟨move :: earlier, fault, rest, rfl, hlost⟩
    · rintro ⟨earlier, fault, rest, hmoves, batch, batches, hbatches, hleft⟩
      cases earlier with
      | nil =>
        obtain ⟨rfl, rfl⟩ := List.cons.inj hmoves
        exact .inl ⟨fault, batch, batches, rfl, hbatches, hleft⟩
      | cons first earlier =>
        obtain ⟨rfl, rfl⟩ := List.cons.inj hmoves
        exact .inr ⟨earlier, fault, rest, rfl, batch, batches, hbatches, hleft⟩

/-- What was withdrawn had been cancelled. -/
def IsNoted (places : Whereabouts τ) : Prop :=
  ∀ frame ∈ places.withdrawn, (frame.handle : Int) ∈ places.frames.cancelledHandles

/-- What a move withdraws was cancelled, and stays so. -/
theorem IsNoted.step (h : places.IsNoted) (move : FrameMove τ) : (places.step move).IsNoted := by
  cases move with
  | begin request =>
    cases request with
    | after delay task => exact h
    | cancel key =>
      have hnoted : (places.frames.cancel key).cancelledHandles =
          places.frames.cancelledHandles ++ [key.toInt] := List.map_append
      intro frame hframe
      show (frame.handle : Int) ∈ (places.frames.cancel key).cancelledHandles
      rw [hnoted, List.mem_append]
      rcases List.mem_append.1 hframe with hearlier | hnow
      · exact .inl (h frame hearlier)
      · have hkey := of_decide_eq_true (List.mem_filter.1 hnow).2
        exact .inr (List.mem_singleton.2 hkey)
    | flush limit =>
      rw [Whereabouts.step, IsNoted, withdrawn_proceed, frames_proceed]
      exact h
  | answer reply =>
    show (places.endTask reply).IsNoted
    unfold endTask
    split
    · exact h
    · rw [IsNoted, withdrawn_proceed, frames_proceed]
      exact h
    · exact h

/-- What some moves withdraw was cancelled. -/
theorem IsNoted.run (h : places.IsNoted) (moves : List (FrameMove τ)) :
    (moves.foldl Whereabouts.step places).IsNoted := by
  induction moves generalizing places with
  | nil => exact h
  | cons move moves ih => exact ih (h.step move)

/-- Where no flush is under way, none holds a frame. -/
theorem Depicts.held_eq_nil {session : FrameSession τ} (h : places.Depicts session)
    (hidle : session.isIdle = true) : places.held = [] := by
  rw [Session.isIdle, h.waiting, List.isEmpty_map, List.isEmpty_iff] at hidle
  rw [held, hidle, List.flatMap_nil]

/-- A frame that no flush holds is accounted for, unless it is lost. -/
theorem settled_iff {frame : Frame τ} (hnodup : places.everywhere.Nodup) (hnoted : places.IsNoted)
    (hframe : frame ∈ places.everywhere) (hheld : frame ∉ places.held) :
    (frame ∈ places.started ∨ (frame.handle : Int) ∈ places.frames.cancelledHandles ∨
        frame ∈ places.frames.scheduled) ↔
      (frame ∈ places.lost → (frame.handle : Int) ∈ places.frames.cancelledHandles) := by
  constructor
  · rintro (hstarted | hcancelled | hscheduled) hlost
    · exact absurd hlost (only_started hnodup hstarted).2.2.2
    · exact hcancelled
    · -- The schedule is the first of the places, so this is not a case of `only_started`.
      exact absurd rfl ((List.nodup_append.1 hnodup).2.2 _ hscheduled _ (by simp [hlost]))
  · intro hlost
    rcases mem_everywhere.1 hframe with hscheduled | hother | hstarted | hwithdrawn | hleft
    · exact .inr (.inr hscheduled)
    · exact absurd hother hheld
    · exact .inl hstarted
    · exact .inr (.inl (hnoted frame hwithdrawn))
    · exact .inr (.inl (hlost hleft))

end Whereabouts

/-! ## Lost frames -/

/-- Whenever no flush is under way, each frame that was ever scheduled has started, or was cancelled,
or is still on the schedule, unless it is lost, and a lost frame is none of these unless it is
cancelled all the same. A frame is lost exactly when a task fails while the flush that called it
holds the frame. -/
theorem accounted_for_iff (moves : List (FrameMove τ)) :
    let session := sessionAfter moves
    let places := whereabouts moves
    places.Depicts session ∧
      places.everywhere.Perm (scheduledBy 0 moves) ∧
      (scheduledBy 0 moves).map (·.handle) = List.range' 1 session.state.issued ∧
      (∀ frame, frame ∈ places.lost ↔
        ∃ before fault after, moves = before ++ .answer (.error fault) :: after ∧
          ∃ batch batches, (whereabouts before).batches = batch :: batches ∧ frame ∈ batch.left) ∧
      (session.isIdle = true → ∀ frame ∈ scheduledBy 0 moves,
        ((frame ∈ places.started ∨ (frame.handle : Int) ∈ session.state.cancelledHandles ∨
            frame ∈ session.state.scheduled) ↔
          (frame ∈ places.lost → (frame.handle : Int) ∈ session.state.cancelledHandles))) := by
  intro session places
  have hdepicts : places.Depicts session := Whereabouts.depicts_sessionAfter moves
  have hall : places.everywhere.Perm (scheduledBy 0 moves) :=
    Whereabouts.everywhere_whereabouts moves
  have hnodup : places.everywhere.Nodup := Whereabouts.nodup_everywhere moves
  have hnoted : places.IsNoted :=
    Whereabouts.IsNoted.run (fun _ hnone => absurd hnone List.not_mem_nil) moves
  refine ⟨hdepicts, hall, ?_, ?_, ?_⟩
  · rw [hdepicts.state]
    exact Whereabouts.handles_whereabouts moves
  · intro frame
    exact Whereabouts.mem_lost_run.trans (or_iff_right (List.not_mem_nil))
  · intro hidle frame hframe
    rw [hdepicts.state]
    refine Whereabouts.settled_iff hnodup hnoted (hall.mem_iff.2 hframe) ?_
    rw [hdepicts.held_eq_nil hidle]
    exact List.not_mem_nil

/-- A flush whose first task fails loses the other. -/
theorem failing_task_loses_frame :
    ¬ ∀ moves : List (FrameMove Nat), (sessionAfter moves).isIdle = true →
      ∀ frame ∈ scheduledBy 0 moves, frame ∈ (whereabouts moves).started ∨
        (frame.handle : Int) ∈ (sessionAfter moves).state.cancelledHandles ∨
        frame ∈ (sessionAfter moves).state.scheduled := by
  intro h
  have hsecond := h [.begin (.after 16 1), .begin (.after 16 2), .begin (.flush none),
    .answer (.error (.raised "boom"))] rfl ⟨2, 16, 2⟩ (.tail _ (.head _))
  rcases hsecond with hstarted | hcancelled | hscheduled
  · cases hstarted with
    | tail _ hnone => cases hnone
  · cases hcancelled
  · cases hscheduled

end Breakpoint.Frames
