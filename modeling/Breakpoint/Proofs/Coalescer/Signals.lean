import Breakpoint.Proofs.Coalescer.Timers

/-!
# What the counter of refused requests counts

Each refused request raises the counter, and a frame that starts resets it. A frame that is given up
does not. So the counter counts the requests that were refused since a frame last started: those for
the pending frame, and those for the frames that were given up since. The number that is recorded
when a frame starts is that of the pending frame alone only if no such frame was given up.
-/

namespace Breakpoint.Coalescer

variable {course : Course}

/-! ## Counting refused requests -/

/-- Whether a request was refused: it returned that its frame is no new one. -/
def isRefusal : Event → Bool
  | .ended (.ok (some false)) => true
  | _ => false

/-- How many requests were refused since the last event of a kind, or ever if there was none. -/
def refusedSince (mark : Event → Bool) (history : List Event) : Nat :=
  (history.takeWhile fun event => !mark event).countP isRefusal

/-- How many requests were refused for frames that were given up since a frame last started. -/
def carriedOver : List Event → Nat
  | [] => 0
  | .called .run :: _ => 0
  | .called (.cancel _) :: history => carriedOver history + refusedSince isGrant history
  | .called (.schedule _) :: history | .begun _ :: history | .answered _ :: history |
    .ended _ :: history => carriedOver history

/-- Nothing was refused since a mark that comes last. -/
theorem refusedSince_mark {mark : Event → Bool} {event : Event} (h : mark event = true)
    (history : List Event) : refusedSince mark (event :: history) = 0 := by
  rw [refusedSince, List.takeWhile_cons_of_neg (by simp [h]), List.countP_nil]

/-- Any other event counts as one more if it is a refusal. -/
theorem refusedSince_cons {mark : Event → Bool} {event : Event} (h : mark event = false)
    (history : List Event) :
    refusedSince mark (event :: history) = refusedSince mark history + (isRefusal event).toNat := by
  rw [refusedSince, refusedSince, List.takeWhile_cons_of_pos (by simp [h]), List.countP_cons]
  cases isRefusal event <;> rfl

/-! ## What a move does to the counter -/

/-- Whether an event is a move of the host. -/
def isOfHost : Event → Bool
  | .begun _ | .answered _ => true
  | .called _ | .ended _ => false

/-- What the coalescer is when a move has led to an event. -/
inductive Course.Turns (course : Course) : Event → Coalescer → Prop where
  | refused (hpending : course.state.coalescer.isPending = true) :
    Turns course (.ended (.ok (some false))) course.state.coalescer.refuse
  | asked (hpending : course.state.coalescer.isPending = false) (interval : Int) :
    Turns course (.called (.schedule interval)) course.state.coalescer
  | granted (hawaits : course.awaitsTimer = true) (handle : Option Nat) :
    Turns course (.ended (.ok (some true))) (course.state.coalescer.arm handle)
  | givenUp (hpending : course.state.coalescer.isPending = true) (handle : Nat) :
    Turns course (.called (.cancel handle)) course.state.coalescer.disarm
  | started (hpending : course.state.coalescer.isPending = true) :
    Turns course (.called .run) course.state.coalescer.start
  | other (outcome : Except Fault (Option Bool)) (hrefusal : isRefusal (.ended outcome) = false)
    (hgrant : isGrant (.ended outcome) = false) :
    Turns course (.ended outcome) course.state.coalescer

/-- A move leads to one event, unless it answers what nobody has asked. -/
theorem Course.IsAnswerable.turns (h : course.IsAnswerable) (move : Move Request Reply) :
    course.step perform move = course ∨ ∃ moved event, isOfHost moved = true ∧
      (course.step perform move).history = event :: moved :: course.history ∧
      course.Turns event (course.step perform move).state.coalescer := by
  cases move with
  | begin asked =>
    refine .inr ⟨.begun asked, ?_⟩
    simp only [Session.step]
    cases hpending : course.state.coalescer.isPending with
    | true =>
      cases asked with
      | request =>
        rw [perform_request_of_isPending hpending]
        exact ⟨_, rfl, rfl, .refused hpending⟩
      | cancel =>
        obtain ⟨handle, hhandle⟩ := Option.isSome_iff_exists.mp hpending
        rw [perform_cancel_of_pending hhandle]
        exact ⟨_, rfl, rfl, .givenUp hpending handle⟩
      | fire =>
        rw [perform_fire_of_isPending hpending]
        exact ⟨_, rfl, rfl, .started hpending⟩
    | false =>
      cases asked with
      | request =>
        rw [perform_request_of_not_isPending hpending]
        exact ⟨_, rfl, rfl, .asked hpending _⟩
      | cancel =>
        rw [perform_cancel_of_not_isPending hpending]
        exact ⟨_, rfl, rfl, .other _ rfl rfl⟩
      | fire =>
        rw [perform_fire_of_not_isPending hpending]
        exact ⟨_, rfl, rfl, .other _ rfl rfl⟩
  | answer reply =>
    cases hopen : openCalls course.history with
    | nil =>
      have hwaiting : course.waiting = [] := by rw [h, hopen]; rfl
      left
      simp only [Session.step, hwaiting]
    | cons callback others =>
      have hwaiting : course.waiting = resume callback :: others.map resume := by
        rw [h, hopen]; rfl
      refine .inr ⟨.answered reply, ?_⟩
      simp only [Session.step, hwaiting]
      cases callback with
      | schedule interval =>
        have hawaits : course.awaitsTimer = true := by
          simp [awaitsTimer, hopen, Callback.isForTimer]
        cases reply with
        | ok handle => exact ⟨_, rfl, rfl, .granted hawaits handle⟩
        | error fault => exact ⟨_, rfl, rfl, .other _ rfl rfl⟩
      | cancel handle =>
        cases reply with
        | ok handle => exact ⟨_, rfl, rfl, .other _ rfl rfl⟩
        | error fault => exact ⟨_, rfl, rfl, .other _ rfl rfl⟩
      | run =>
        cases reply with
        | ok handle => exact ⟨_, rfl, rfl, .other _ rfl rfl⟩
        | error fault => exact ⟨_, rfl, rfl, .other _ rfl rfl⟩

/-- Events of the host leave every count as it is. -/
theorem counts_of_isOfHost {moved : Event} (h : isOfHost moved = true) (history : List Event) :
    refusedSince isStart (moved :: history) = refusedSince isStart history ∧
      refusedSince isGrant (moved :: history) = refusedSince isGrant history ∧
      carriedOver (moved :: history) = carriedOver history := by
  cases moved with
  | begun asked => exact ⟨refusedSince_cons rfl _, refusedSince_cons rfl _, rfl⟩
  | answered reply => exact ⟨refusedSince_cons rfl _, refusedSince_cons rfl _, rfl⟩
  | called callback => cases h
  | ended outcome => cases h

/-! ## What stays true -/

/-- The counter counts the requests that were refused since a frame last started. -/
def Course.CountsSinceStart (course : Course) : Prop :=
  course.state.coalescer.coalesced = refusedSince isStart course.history

/-- The counter counts the requests that were refused for the pending frame, if there is one, and
those that were refused for frames that were given up since a frame last started. -/
def Course.CountsByFrame (course : Course) : Prop :=
  course.state.coalescer.coalesced =
    (if course.state.coalescer.isPending then refusedSince isGrant course.history else 0) +
      carriedOver course.history

/-- A new course has counted no refused requests, and there are none. -/
theorem countsSinceStart_new (interval : Int) : (Course.new interval).CountsSinceStart := rfl

/-- A new course has counted no refused requests of any frame, and there are none. -/
theorem countsByFrame_new (interval : Int) : (Course.new interval).CountsByFrame := rfl

/-- Every move keeps the count of the requests that were refused since a frame started. -/
theorem Course.CountsSinceStart.step (h : course.CountsSinceStart)
    (hanswerable : course.IsAnswerable) (move : Move Request Reply) :
    CountsSinceStart (course.step perform move) := by
  rcases hanswerable.turns move with hsame | ⟨moved, event, hmoved, hhistory, hturns⟩
  · rw [hsame]
    exact h
  · unfold CountsSinceStart at h ⊢
    rw [← (counts_of_isOfHost hmoved course.history).1] at h
    rw [hhistory]
    generalize (course.step perform move).state.coalescer = coalescer at hturns
    cases hturns with
    | refused hpending =>
      rw [refusedSince_cons rfl, ← h]
      rfl
    | asked hpending interval =>
      rw [refusedSince_cons rfl, ← h]
      rfl
    | granted hawaits handle =>
      rw [refusedSince_cons rfl, ← h]
      rfl
    | givenUp hpending handle =>
      rw [refusedSince_cons rfl, ← h]
      rfl
    | started hpending =>
      rw [refusedSince_mark rfl]
      rfl
    | other outcome hrefusal hgrant =>
      rw [refusedSince_cons rfl, hrefusal]
      exact h

/-- A frame takes its refused requests along: the counter of the next frame starts with them when it
is given up. -/
theorem Course.CountsByFrame.step (h : course.CountsByFrame) {given : Nat}
    (hsound : course.IsSound given) (move : Move Request Reply) :
    CountsByFrame (course.step perform move) := by
  have hanswerable : course.IsAnswerable := hsound.waiting
  rcases hanswerable.turns move with hsame | ⟨moved, event, hmoved, hhistory, hturns⟩
  · rw [hsame]
    exact h
  · unfold CountsByFrame at h ⊢
    obtain ⟨-, hgrants, hcarried⟩ := counts_of_isOfHost hmoved course.history
    rw [← hgrants, ← hcarried] at h
    rw [hhistory]
    generalize (course.step perform move).state.coalescer = coalescer at hturns
    cases hturns with
    | refused hpending =>
      rw [hpending, if_pos rfl] at h
      show _ + 1 = (if course.state.coalescer.isPending then _ else 0) + carriedOver _
      rw [hpending, if_pos rfl, refusedSince_cons rfl, h]
      exact Nat.add_right_comm _ _ 1
    | asked hpending interval =>
      rw [hpending] at h ⊢
      exact h
    | granted hawaits handle =>
      -- No frame was pending while the timer was asked for, so all that counted was carried over.
      rw [hsound.idle hawaits] at h
      show _ = (if handle.isSome then _ else 0) + carriedOver _
      rw [refusedSince_mark rfl, ite_self]
      exact h
    | givenUp hpending handle =>
      -- What was refused for the pending frame is carried over now; the sum stays the same.
      rw [hpending, if_pos rfl] at h
      exact (h.trans (Nat.add_comm _ _)).trans (Nat.zero_add _).symm
    | started hpending => rfl
    | other outcome hrefusal hgrant =>
      rw [refusedSince_cons hgrant, hrefusal]
      exact h

/-- Nothing is asked of the host for the counter to count since the last start. -/
theorem Course.CountsSinceStart.run (h : course.CountsSinceStart)
    (hanswerable : course.IsAnswerable) (moves : List (Move Request Reply)) :
    CountsSinceStart (course.run perform moves) := by
  induction moves generalizing course with
  | nil => exact h
  | cons move moves ih => exact ih (h.step hanswerable move) (hanswerable.step move).1

/-- Every run within the rules keeps the count of the requests that were refused for frames. -/
theorem Course.CountsByFrame.run (h : course.CountsByFrame) {given : Nat}
    (hsound : course.IsSound given) {moves : List (Move Request Reply)}
    (hallows : course.allowsAll moves = true) :
    CountsByFrame (course.run perform moves) := by
  induction moves generalizing course given with
  | nil => exact h
  | cons move moves ih =>
    rw [allowsAll, Bool.and_eq_true] at hallows
    exact ih (h.step hsound move) (hsound.step hallows.1) hallows.2

/-! ## The recorded number -/

/-- A timer that fires while a frame is pending records the counter, unless it is zero. -/
theorem Course.records_step_fire (hpending : course.state.coalescer.isPending = true) :
    (course.step perform (.begin .fire)).state.records =
      course.state.coalescer.startRecords.reverse ++ course.state.records := by
  rw [Session.step, perform_fire_of_isPending hpending]
  rfl

/-- The record of a frame that starts after so many refused requests. -/
def sweepRecords (refused : Nat) : List LogRecord :=
  if refused = 0 then []
  else
    [⟨.debug, .notifier, "Frame sweep running after " ++ toString refused
      ++ " coalesced size signals", none⟩]

/-- At every moment the counter counts the requests that were refused since a frame last started,
whatever the host does. If the host arms its timers without calling back, these are the requests that
were refused since the pending frame was granted, or none if no frame is pending, and in addition
those that were refused for frames given up since that start. The same number is recorded when the
pending frame starts. -/
theorem coalesced_eq_refused (interval : Int) (moves : List (Move Request Reply)) :
    let course := (Course.new interval).run perform moves
    let coalescer := course.state.coalescer
    let fired := course.step perform (.begin .fire)
    coalescer.coalesced = refusedSince isStart course.history ∧
      ((Course.new interval).allowsAll moves = true →
        (coalescer.isPending = false → coalescer.coalesced = carriedOver course.history) ∧
          (coalescer.isPending = true →
            coalescer.coalesced = refusedSince isGrant course.history + carriedOver course.history ∧
              fired.state.records =
                sweepRecords (refusedSince isGrant course.history + carriedOver course.history) ++
                  course.state.records)) := by
  intro course coalescer fired
  have hstart : Course.CountsSinceStart course :=
    (countsSinceStart_new interval).run (isAnswerable_new interval) moves
  refine ⟨hstart, fun hallows => ?_⟩
  have hframe : Course.CountsByFrame course :=
    (countsByFrame_new interval).run (isSound_new interval) hallows
  have hcounts : coalescer.coalesced = (if coalescer.isPending then _ else 0) + _ := hframe
  constructor
  · intro hidle
    rw [hidle] at hcounts
    exact hcounts.trans (Nat.zero_add _)
  · intro hpending
    rw [hpending, if_pos rfl] at hcounts
    have hsingle : coalescer.startRecords.reverse = sweepRecords coalescer.coalesced := by
      rw [Coalescer.startRecords, sweepRecords]
      split <;> rfl
    rw [Course.records_step_fire hpending, ← hcounts]
    exact ⟨rfl, congrArg (· ++ course.state.records) hsingle⟩

/-- A frame for which one more request was refused is given up. -/
def givenUpWithSignal : List (Move Request Reply) :=
  [.begin .request, .answer (.ok (some 1)), .begin .request, .begin .cancel, .answer (.ok none)]

/-- The next frame is recorded with the signal of the frame that was given up. -/
theorem coalesced_after_givenUp :
    let moves := givenUpWithSignal ++ [.begin .request, .answer (.ok (some 2))]
    let course := (Course.new 16).run perform moves
    ((Course.new 16).allowsAll moves = true ∧ course.state.coalescer.isPending = true) ∧
      refusedSince isGrant course.history = 0 ∧ course.state.coalescer.coalesced = 0 + 1 ∧
      (course.step perform (.begin .fire)).state.records =
        [⟨.debug, .notifier, "Frame sweep running after 1 coalesced size signals", none⟩] := by
  intro moves course
  have hallows : (Course.new 16).allowsAll moves = true := by decide
  have hpending : course.state.coalescer.isPending = true := by decide
  have hrefused : refusedSince isGrant course.history = 0 := by decide
  have hcarried : carriedOver course.history = 1 := by decide
  obtain ⟨-, hcounts⟩ := coalesced_eq_refused 16 moves
  obtain ⟨hcoalesced, hrecords⟩ := (hcounts hallows).2 hpending
  rw [hrefused, hcarried] at hcoalesced hrecords
  exact ⟨⟨hallows, hpending⟩, hrefused, hcoalesced, hrecords⟩

/-- The counter does not count the signals of the pending frame alone: it is not zero when the frame
was given up, nor when the next one is pending for which no request was refused. -/
theorem givenUp_signal_counted :
    let idle := (Course.new 16).run perform givenUpWithSignal
    let course := idle.run perform [.begin .request, .answer (.ok (some 2))]
    ¬ (idle.state.coalescer.isPending = false → idle.state.coalescer.coalesced = 0) ∧
      ¬ (course.state.coalescer.isPending = true →
        course.state.coalescer.coalesced = refusedSince isGrant course.history) := by
  decide

end Breakpoint.Coalescer
