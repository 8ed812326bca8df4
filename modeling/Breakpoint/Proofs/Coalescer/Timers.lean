import Breakpoint.Proofs.Coalescer.Grants

/-!
# Timers of frames that have ended

A frame ends when it is given up or when it starts. Its timer may fire all the same, any number of
times and at any later moment. All timers of a coalescer are one operation, which asks only whether
some frame is pending. So the timer of a frame that has ended is without effect while none is, and
starts a frame that was granted since if one is: that frame starts before its own timer fires, and
starts only once.

Nothing is asked of the host here: it may give no handle, and may request frames while it is asked
for a timer.
-/

namespace Breakpoint.Coalescer

variable {course : Course} {state : Recorded}

/-- The operations that wait for a reply go on with what their callbacks have left to do. -/
def Course.IsAnswerable (course : Course) : Prop :=
  course.waiting = (openCalls course.history).map resume

/-- In a new course no operation waits for a reply. -/
theorem isAnswerable_new (interval : Int) : (Course.new interval).IsAnswerable := rfl

/-! ## What happens since -/

/-- The later course goes on with the earlier one, and each frame that started since, and one that
is pending now, was pending before or has been granted since. -/
structure Accounts (earlier later : Course) (since : List Event) : Prop where
  history : later.history = since ++ earlier.history
  balance : started since + later.state.coalescer.isPending.toNat ≤
    granted since + earlier.state.coalescer.isPending.toNat

/-- The starts of two parts of a history add up. -/
theorem started_append (later earlier : List Event) :
    started (later ++ earlier) = started later + started earlier :=
  List.countP_append

/-- The grants of two parts of a history add up. -/
theorem granted_append (later earlier : List Event) :
    granted (later ++ earlier) = granted later + granted earlier :=
  List.countP_append

/-- A course accounts for nothing since itself. -/
theorem Accounts.refl (course : Course) : Accounts course course [] where
  history := rfl
  balance := Nat.le_refl _

/-- What two stretches account for, both together do. -/
theorem Accounts.trans {first second third : Course} {since more : List Event}
    (hfirst : Accounts first second since) (hsecond : Accounts second third more) :
    Accounts first third (more ++ since) where
  history := by rw [hsecond.history, hfirst.history, List.append_assoc]
  balance := by
    have hearlier := hfirst.balance
    have hlater := hsecond.balance
    rw [started_append, granted_append]
    omega

/-- How many frames start in a move: at most one, in the first of its two events. -/
theorem started_move (event : Event) {before : Event} (h : isStart before = false) :
    started [event, before] = (isStart event).toNat := by
  rw [started_cons, started_cons, h]
  exact Nat.zero_add _

/-- Of a move and its answer, only the answer may be a grant. -/
theorem granted_move (event : Event) {before : Event} (h : isGrant before = false) :
    granted [event, before] = (isGrant event).toNat := by
  rw [granted_cons, granted_cons, h]
  exact Nat.zero_add _

/-- An operation that ends at once grants no frame and leaves the pending one alone. -/
theorem accounts_ended {asked : Request} {outcome : Except Fault (Option Bool)}
    (hpending : state.coalescer.isPending = course.state.coalescer.isPending) :
    Accounts course ((course.note (.begun asked)).advance (.done outcome state))
      [.ended outcome, .begun asked] where
  history := rfl
  balance := by
    show started _ + state.coalescer.isPending.toNat ≤ _
    rw [started_move _ rfl, hpending]
    exact Nat.add_le_add_right (Nat.zero_le _) _

/-- An operation that calls the host starts the pending frame, or leaves none that was not. -/
theorem accounts_called {asked : Request} {callback : Callback}
    {next : Reply → Recorded → Dialogue Recorded Callback Reply (Option Bool)}
    (hbalance : (isStart (.called callback)).toNat + state.coalescer.isPending.toNat ≤
      course.state.coalescer.isPending.toNat) :
    Accounts course ((course.note (.begun asked)).advance (.call callback state next))
      [.called callback, .begun asked] where
  history := rfl
  balance := by
    show started _ + state.coalescer.isPending.toNat ≤ _
    rw [started_move _ rfl, granted_move _ rfl]
    exact Nat.le_trans hbalance (Nat.le_add_left _ _)

/-- With the reply to a callback at most the frame is pending that it grants. -/
theorem accounts_answered {waiting : List (Reply → Recorded → Dialogue Recorded Callback Reply _)}
    {reply : Reply} {outcome : Except Fault (Option Bool)}
    (hbalance : state.coalescer.isPending.toNat ≤
      (isGrant (.ended outcome)).toNat + course.state.coalescer.isPending.toNat) :
    Accounts course
      (({ course with waiting }.note (.answered reply)).advance (.done outcome state))
      [.ended outcome, .answered reply] where
  history := rfl
  balance := by
    show started _ + state.coalescer.isPending.toNat ≤ _
    rw [started_move _ rfl, granted_move _ rfl]
    exact Nat.le_trans (Nat.le_of_eq (Nat.zero_add _)) hbalance

/-- What waits is answered by what its callback has left to do. -/
theorem Course.IsAnswerable.answered {callback : Callback} {others : List Callback} {reply : Reply}
    {outcome : Except Fault (Option Bool)} (hopen : openCalls course.history = callback :: others) :
    IsAnswerable (({ course with waiting := others.map resume }.note (.answered reply)).advance
      (.done outcome state)) := by
  show others.map resume = (openCalls course.history).tail.map resume
  rw [hopen, List.tail_cons]

/-- Every move of the host is accounted for. -/
theorem Course.IsAnswerable.step (h : course.IsAnswerable) (move : Move Request Reply) :
    IsAnswerable (course.step perform move) ∧
      ∃ since, Accounts course (course.step perform move) since := by
  cases move with
  | begin asked =>
    simp only [Session.step]
    cases hpending : course.state.coalescer.isPending with
    | true =>
      cases asked with
      | request =>
        rw [perform_request_of_isPending hpending]
        exact ⟨h, _, accounts_ended rfl⟩
      | cancel =>
        obtain ⟨handle, hhandle⟩ := Option.isSome_iff_exists.mp hpending
        rw [perform_cancel_of_pending hhandle]
        exact ⟨congrArg (resume (.cancel handle) :: ·) h, _, accounts_called (Nat.zero_le _)⟩
      | fire =>
        rw [perform_fire_of_isPending hpending]
        refine ⟨congrArg (resume .run :: ·) h, _, accounts_called ?_⟩
        rw [hpending]
        exact Nat.le_refl 1
    | false =>
      cases asked with
      | request =>
        rw [perform_request_of_not_isPending hpending]
        refine ⟨congrArg (resume _ :: ·) h, _, accounts_called ?_⟩
        exact Nat.le_of_eq (Nat.zero_add _)
      | cancel =>
        rw [perform_cancel_of_not_isPending hpending]
        exact ⟨h, _, accounts_ended rfl⟩
      | fire =>
        rw [perform_fire_of_not_isPending hpending]
        exact ⟨h, _, accounts_ended rfl⟩
  | answer reply =>
    cases hopen : openCalls course.history with
    | nil =>
      have hwaiting : course.waiting = [] := by rw [h, hopen]; rfl
      simp only [Session.step, hwaiting]
      exact ⟨h, [], .refl course⟩
    | cons callback others =>
      have hwaiting : course.waiting = resume callback :: others.map resume := by
        rw [h, hopen]; rfl
      have hkept : ∀ {outcome : Except Fault (Option Bool)},
          course.state.coalescer.isPending.toNat ≤
            (isGrant (.ended outcome)).toNat + course.state.coalescer.isPending.toNat :=
        Nat.le_add_left _ _
      simp only [Session.step, hwaiting]
      cases callback with
      | schedule interval =>
        cases reply with
        | ok handle =>
          refine ⟨IsAnswerable.answered hopen, _, accounts_answered ?_⟩
          exact Nat.le_trans (Bool.toNat_le _) (Nat.le_add_right 1 _)
        | error fault => exact ⟨IsAnswerable.answered hopen, _, accounts_answered hkept⟩
      | cancel handle =>
        cases reply with
        | ok handle => exact ⟨IsAnswerable.answered hopen, _, accounts_answered hkept⟩
        | error fault => exact ⟨IsAnswerable.answered hopen, _, accounts_answered hkept⟩
      | run =>
        cases reply with
        | ok handle => exact ⟨IsAnswerable.answered hopen, _, accounts_answered hkept⟩
        | error fault => exact ⟨IsAnswerable.answered hopen, _, accounts_answered hkept⟩

/-- Whatever moves the host makes, they are accounted for. -/
theorem Course.IsAnswerable.run (h : course.IsAnswerable) (moves : List (Move Request Reply)) :
    IsAnswerable (course.run perform moves) ∧
      ∃ since, Accounts course (course.run perform moves) since := by
  induction moves generalizing course with
  | nil => exact ⟨h, [], .refl course⟩
  | cons move moves ih =>
    obtain ⟨hnext, first, hfirst⟩ := h.step move
    obtain ⟨hlast, rest, hrest⟩ := ih hnext
    exact ⟨hlast, _, hfirst.trans hrest⟩

/-! ## Timers that fire late -/

/-- A request that ends the pending frame: it gives the frame up, or starts it. -/
def Request.endsFrame : Request → Bool
  | .request => false
  | .cancel | .fire => true

/-- Whatever was pending, it no longer is when frames were given up or a timer fired. -/
theorem Course.isPending_step_of_endsFrame {ending : Request} (h : ending.endsFrame = true) :
    (course.step perform (.begin ending)).state.coalescer.isPending = false := by
  simp only [Session.step]
  cases hpending : course.state.coalescer.isPending with
  | true =>
    cases ending with
    | request => contradiction
    | cancel =>
      obtain ⟨handle, hhandle⟩ := Option.isSome_iff_exists.mp hpending
      rw [perform_cancel_of_pending hhandle]
      rfl
    | fire =>
      rw [perform_fire_of_isPending hpending]
      rfl
  | false =>
    cases ending with
    | request => contradiction
    | cancel =>
      rw [perform_cancel_of_not_isPending hpending]
      exact hpending
    | fire =>
      rw [perform_fire_of_not_isPending hpending]
      exact hpending

/-- A timer that fires starts the pending frame, whichever it is, and does nothing if there is
none. -/
theorem Course.step_fire (course : Course) :
    (course.state.coalescer.isPending = true →
      (course.step perform (.begin .fire)).history = .called .run :: .begun .fire :: course.history) ∧
    (course.state.coalescer.isPending = false →
      course.step perform (.begin .fire) = (course.note (.begun .fire)).note (.ended (.ok none))) := by
  constructor
  · intro hpending
    simp only [Session.step]
    rw [perform_fire_of_isPending hpending]
    rfl
  · intro hpending
    simp only [Session.step]
    rw [perform_fire_of_not_isPending hpending]
    rfl

/-- A frame ends, and at any later moment its timer fires. If no frame is pending then, nothing
happens. If one is, it starts now: it is a frame that was granted since, and has not started before.
So the timer is without effect unless some frame that was granted since has not started yet. -/
theorem fire_of_ended_frame (interval : Int) (before later : List (Move Request Reply))
    (ending : Request) (hending : ending.endsFrame = true) :
    let ended := ((Course.new interval).run perform before).step perform (.begin ending)
    let course := ended.run perform later
    let fired := course.step perform (.begin .fire)
    (∃ since, course.history = since ++ ended.history ∧
      (course.state.coalescer.isPending = true → started since < granted since)) ∧
    (course.state.coalescer.isPending = true →
      fired.history = .called .run :: .begun .fire :: course.history ∧
        fired.state.coalescer.isPending = false) ∧
    (course.state.coalescer.isPending = false →
      fired = (course.note (.begun .fire)).note (.ended (.ok none))) := by
  intro ended course fired
  have hanswerable := ((isAnswerable_new interval).run before).1
  obtain ⟨-, since, hsince⟩ := (hanswerable.step (.begin ending)).1.run later
  have hidle : ended.state.coalescer.isPending = false := Course.isPending_step_of_endsFrame hending
  obtain ⟨hstarts, hnothing⟩ := Course.step_fire course
  refine ⟨⟨since, hsince.history, fun hpending => ?_⟩, fun hpending => ?_, hnothing⟩
  · have hbalance : started since + course.state.coalescer.isPending.toNat ≤
        granted since + ended.state.coalescer.isPending.toNat := hsince.balance
    rw [hpending, hidle] at hbalance
    exact hbalance
  · exact ⟨hstarts hpending, Course.isPending_step_of_endsFrame rfl⟩

/-- A frame is given up, but its timer is not, and another frame is requested. -/
def reissued : List (Move Request Reply) :=
  [.answer (.error .wrongKind), .begin .request, .answer (.ok (some 2))]

/-- The timer of the frame that was given up starts the other frame. -/
theorem fire_after_reissue :
    let ended := ((Course.new 16).run perform [.begin .request, .answer (.ok (some 1))]).step perform
      (.begin .cancel)
    let course := ended.run perform reissued
    let fired := course.step perform (.begin .fire)
    Request.endsFrame .cancel = true ∧ course.state.coalescer.isPending = true ∧
      (∃ since, course.history = since ++ ended.history ∧ started since < granted since) ∧
      fired.history.head? = some (.called .run) ∧ fired.state.coalescer.isPending = false := by
  intro ended course fired
  have hpending : course.state.coalescer.isPending = true := by decide
  obtain ⟨⟨since, hhistory, hgranted⟩, hstarts, -⟩ :=
    fire_of_ended_frame 16 [.begin .request, .answer (.ok (some 1))] reissued .cancel rfl
  obtain ⟨hfired, hidle⟩ := hstarts hpending
  exact ⟨rfl, hpending, ⟨since, hhistory, hgranted hpending⟩, by rw [hfired]; rfl, hidle⟩

/-- The timer of a frame that has ended is not always without effect. -/
theorem ended_frame_fires :
    ¬ ∀ (interval : Int) (before later : List (Move Request Reply)) (ending : Request),
      ending.endsFrame = true →
      ((Course.new interval).run perform before).state.coalescer.isPending = true →
        let ended := ((Course.new interval).run perform before).step perform (.begin ending)
        let course := ended.run perform later
        let fired := course.step perform (.begin .fire)
        fired.history.head? ≠ some (.called .run) ∧
          fired.state.coalescer.isPending = course.state.coalescer.isPending := by
  intro h
  have hkept := (h 16 [.begin .request, .answer (.ok (some 1))] reissued .cancel rfl
    (by decide)).2
  contradiction

end Breakpoint.Coalescer
