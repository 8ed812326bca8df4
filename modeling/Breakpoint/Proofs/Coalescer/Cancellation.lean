import Breakpoint.Proofs.Coalescer.Whereabouts

/-!
# Cancelled frames

To cancel a handle takes its frame off the schedule, if it waits there, and then the frame never
starts. A flush asks nothing of the schedule once it has taken its frames. So to cancel a frame that
a flush holds changes nothing but the list of cancelled handles, and the frame starts in its turn.
-/

namespace Breakpoint.Frames

variable {τ : Type}

namespace Whereabouts

variable {places : Whereabouts τ} {frame : Frame τ} {key : FrameKey}

/-- A frame that is cancelled before a flush takes it is withdrawn, unless it is withdrawn or lost
already. -/
theorem cancel_of_not_held (hframe : frame ∈ places.everywhere) (hkey : key.toInt = frame.handle)
    (hwaits : frame ∉ places.started) (hheld : frame ∉ places.held) :
    frame ∈ (places.step (.begin (.cancel key))).withdrawn ∨
      frame ∈ (places.step (.begin (.cancel key))).lost := by
  rcases mem_everywhere.1 hframe with hscheduled | hother | hstarted | hwithdrawn | hlost
  · refine .inl (List.mem_append_right _ (List.mem_filter.2 ⟨hscheduled, ?_⟩))
    exact decide_eq_true hkey.symm
  · exact absurd hother hheld
  · exact absurd hstarted hwaits
  · exact .inl (List.mem_append_left _ hwithdrawn)
  · exact .inr hlost

/-- What was withdrawn or lost never starts. -/
theorem not_started_of_settled {later : Whereabouts τ} (hnodup : later.everywhere.Nodup)
    (hfollows : places.Follows later) (h : frame ∈ places.withdrawn ∨ frame ∈ places.lost) :
    frame ∉ later.started := by
  intro hstarted
  obtain ⟨-, -, hwithdrawn, hlost⟩ := only_started hnodup hstarted
  rcases h with hearlier | hearlier
  · exact hwithdrawn (hfollows.withdrawn hearlier)
  · exact hlost (hfollows.lost hearlier)

/-- A frame that waits when it is cancelled starts later exactly if it was held then, and is neither
held nor lost any longer. -/
theorem started_iff_of_cancel {later : Whereabouts τ} (hnodup : later.everywhere.Nodup)
    (hfollows : (places.step (.begin (.cancel key))).Follows later)
    (hframe : frame ∈ places.everywhere) (hkey : key.toInt = frame.handle)
    (hwaits : frame ∉ places.started) :
    frame ∈ later.started ↔ frame ∈ places.held ∧ frame ∉ later.held ∧ frame ∉ later.lost := by
  constructor
  · intro hstarted
    obtain ⟨-, hheld, -, hlost⟩ := only_started hnodup hstarted
    refine ⟨?_, hheld, hlost⟩
    -- Were it not held, the cancellation would have found it on the schedule.
    by_contra hfree
    have hsettled := cancel_of_not_held hframe hkey hwaits hfree
    exact not_started_of_settled hnodup hfollows hsettled hstarted
  · rintro ⟨hheld, hreleased, hkept⟩
    rcases hfollows.held frame hheld with hstill | hstarted | hlost
    · exact absurd hstill hreleased
    · exact hstarted
    · exact absurd hlost hkept

end Whereabouts

/-- To cancel a handle that no frame on the schedule bears is only noted. -/
theorem cancel_of_not_scheduled {frames : Frames τ} {key : FrameKey}
    (h : ∀ frame ∈ frames.scheduled, (frame.handle : Int) ≠ key.toInt) :
    frames.cancel key = { frames with cancelled := frames.cancelled ++ [key] } := by
  have hkept : frames.scheduled.filter (fun frame => (frame.handle : Int) ≠ key.toInt) =
      frames.scheduled :=
    List.filter_eq_self.2 fun frame hframe => decide_eq_true (h frame hframe)
  rw [cancel, hkept]

/-- So is to cancel a frame that a flush holds, since no other frame bears its handle. -/
theorem cancel_of_held {moves : List (FrameMove τ)} {key : FrameKey} {frame : Frame τ}
    (hheld : frame ∈ (whereabouts moves).held) (hkey : key.toInt = frame.handle) :
    let frames := (whereabouts moves).frames
    frames.cancel key = { frames with cancelled := frames.cancelled ++ [key] } := by
  refine cancel_of_not_scheduled fun other hscheduled hsame => ?_
  have hequal : other = frame :=
    Whereabouts.eq_of_handle_eq (Whereabouts.mem_everywhere.2 (.inl hscheduled))
      (Whereabouts.mem_everywhere.2 (.inr (.inl hheld))) (Int.ofNat.inj (hsame.trans hkey))
  rw [hequal] at hscheduled
  exact (Whereabouts.only_held (Whereabouts.nodup_everywhere moves) hheld).1 hscheduled

/-- A frame that has not started when its handle is cancelled starts later exactly if a flush under
way held it then, holds it no longer, and has not been ended by a fault before its turn. To that
flush the cancellation makes no difference: it is only noted, and if no task fails from then on, the
frame has started when no flush is under way. -/
theorem cancelled_starts_iff (before after : List (FrameMove τ)) (key : FrameKey) (frame : Frame τ)
    (hframe : frame ∈ scheduledBy 0 before) (hkey : key.toInt = frame.handle)
    (hwaits : frame ∉ (whereabouts before).started) :
    let opening := sessionAfter before
    let cancelled := sessionAfter (before ++ [.begin (.cancel key)])
    let session := sessionAfter (before ++ .begin (.cancel key) :: after)
    let places := whereabouts before
    let later := whereabouts (before ++ .begin (.cancel key) :: after)
    (places.Depicts opening ∧ later.Depicts session) ∧
      (frame ∈ later.started ↔
        frame ∈ places.held ∧ frame ∉ later.held ∧ frame ∉ later.lost) ∧
      (frame ∈ places.held →
        cancelled.state = { opening.state with cancelled := opening.state.cancelled ++ [key] } ∧
          cancelled.waiting = opening.waiting ∧
          (session.isIdle = true → (∀ fault, .answer (.error fault) ∉ after) →
            frame ∈ later.started)) := by
  intro opening cancelled session places later
  have hcancelled : cancelled = opening.run perform [.begin (.cancel key)] :=
    sessionAfter_append _ _
  have hopening : places.Depicts opening := Whereabouts.depicts_sessionAfter before
  have hsession : later.Depicts session := Whereabouts.depicts_sessionAfter _
  have hnodup : places.everywhere.Nodup := Whereabouts.nodup_everywhere before
  have hnodupLater : later.everywhere.Nodup := Whereabouts.nodup_everywhere _
  have heverywhere : frame ∈ places.everywhere :=
    (Whereabouts.everywhere_whereabouts before).mem_iff.2 hframe
  have hlater : later = after.foldl Whereabouts.step (places.step (.begin (.cancel key))) :=
    List.foldl_append
  have hfollows : (places.step (.begin (.cancel key))).Follows later := by
    rw [hlater]
    exact Whereabouts.follows_run _ after
  have hstarts : frame ∈ later.started ↔
      frame ∈ places.held ∧ frame ∉ later.held ∧ frame ∉ later.lost :=
    Whereabouts.started_iff_of_cancel hnodupLater hfollows heverywhere hkey hwaits
  refine ⟨⟨hopening, hsession⟩, hstarts, fun hheld => ⟨?_, ?_, fun hidle hfaultless => ?_⟩⟩
  · rw [hcancelled, hopening.state, ← cancel_of_held hheld hkey, ← hopening.state]
    rfl
  · rw [hcancelled]
    rfl
  · refine hstarts.2 ⟨hheld, ?_, fun hlost => ?_⟩
    · rw [hsession.held_eq_nil hidle]
      exact List.not_mem_nil
    · rw [hlater] at hlost
      rcases Whereabouts.mem_lost_run.1 hlost with hearlier | ⟨earlier, fault, rest, rfl, -⟩
      · exact (Whereabouts.only_held hnodup hheld).2.2.2 hearlier
      · exact hfaultless fault (List.mem_append_right _ List.mem_cons_self)

/-- Two tasks are scheduled, and a flush has started the first. -/
def firstOfTwo : List (FrameMove Nat) :=
  [.begin (.after 16 1), .begin (.after 16 2), .begin (.flush none)]

/-- The first task cancels the second one, which starts all the same. -/
theorem cancelled_second_starts :
    let second : Frame Nat := ⟨2, 16, 2⟩
    let run : List (FrameMove Nat) :=
      firstOfTwo ++ .begin (.cancel (.number 2)) :: [.answer (.ok ()), .answer (.ok ())]
    (second ∈ scheduledBy 0 firstOfTwo ∧ FrameKey.toInt (.number 2) = second.handle ∧
        second ∉ (whereabouts firstOfTwo).started) ∧
      (sessionAfter run).state.cancelled = [.number 2] ∧
      second ∈ (whereabouts run).started ∧ startedIn (sessionAfter run).history = [1, 2] := by
  intro second run
  have hframe : second ∈ scheduledBy 0 firstOfTwo := .tail _ (.head _)
  have hwaits : (⟨2, 16, 2⟩ : Frame Nat) ∉ (whereabouts firstOfTwo).started := by
    rintro (_ | ⟨_, ⟨⟩⟩)
  obtain ⟨⟨-, hlater⟩, -, hheld⟩ := cancelled_starts_iff firstOfTwo
    [.answer (.ok ()), .answer (.ok ())] (.number 2) second hframe rfl hwaits
  obtain ⟨-, -, hstarts⟩ := hheld (.head _)
  refine ⟨⟨hframe, rfl, hwaits⟩, rfl, hstarts rfl ?_, hlater.started⟩
  intro fault hfault
  simp at hfault

/-- A cancelled task that has not started yet may start. -/
theorem cancelled_task_starts :
    ¬ ∀ (before after : List (FrameMove Nat)) (key : FrameKey) (frame : Frame Nat),
      frame ∈ scheduledBy 0 before → key.toInt = frame.handle →
        frame ∉ (whereabouts before).started →
          frame ∉ (whereabouts (before ++ .begin (.cancel key) :: after)).started := by
  intro h
  refine h firstOfTwo [.answer (.ok ())] (.number 2) ⟨2, 16, 2⟩ (.tail _ (.head _)) rfl ?_ ?_
  · rintro (_ | ⟨_, ⟨⟩⟩)
  · exact .tail _ (.head _)

end Breakpoint.Frames
