import Breakpoint.Coalescer
import Breakpoint.Session

/-!
# What becomes of a granted frame

A coalescer grants a request or refuses it. Each granted frame starts, or is given up, or is still
pending, and this is so at every moment, in whatever order frames are requested and given up and
timers fire: early, late, more than once, or for a frame that was given up long ago. The host has
to keep two rules: a timer that it provides has a handle, and while it is asked for a timer no
frame is requested.
-/

namespace Breakpoint.Coalescer

open Operation

/-! ## Courses -/

/-- The dealings of a coalescer with its host. -/
abbrev Course := Session Request Recorded Callback Reply (Option Bool)

/-- What happens in a course. -/
abbrev Event := Happening Request Callback Reply (Option Bool)

/-- A course that has just begun. -/
def Course.new (interval : Int) : Course := { state := { coalescer := create interval } }

/-- The callbacks that wait for a reply, the last first. -/
def openCalls : List Event → List Callback
  | [] => []
  | .called callback :: history => callback :: openCalls history
  | .answered _ :: history => (openCalls history).tail
  | .begun _ :: history | .ended _ :: history => openCalls history

/-- Whether a callback asks for a timer. -/
def Callback.isForTimer : Callback → Bool
  | .schedule _ => true
  | .cancel _ | .run => false

/-- Whether the host is asked for a timer, and has not replied yet. -/
def Course.awaitsTimer (course : Course) : Bool :=
  (openCalls course.history).head?.any (·.isForTimer)

/-- Whether the host keeps the rules with a move: it does not request a frame while it is asked for
a timer, and provides no timer without a handle. -/
def Course.allows (course : Course) : Move Request Reply → Bool
  | .begin .request | .answer (.ok none) => !course.awaitsTimer
  | .begin .cancel | .begin .fire | .answer (.ok (some _)) | .answer (.error _) => true

/-- Whether the host keeps the rules with every move. -/
def Course.allowsAll (course : Course) : List (Move Request Reply) → Bool
  | [] => true
  | move :: moves => course.allows move && allowsAll (course.step perform move) moves

/-- Whether a request was granted: it returned that its frame is a new one. -/
def isGrant : Event → Bool
  | .ended (.ok (some true)) => true
  | _ => false

/-- Whether a frame started: the host was called to run it. -/
def isStart : Event → Bool
  | .called .run => true
  | _ => false

/-- How many requests were granted. -/
def granted (history : List Event) : Nat := history.countP isGrant

/-- How many frames started. -/
def started (history : List Event) : Nat := history.countP isStart

/-- An event counts as one more if it is a grant. -/
theorem granted_cons (event : Event) (history : List Event) :
    granted (event :: history) = granted history + (isGrant event).toNat := by
  unfold granted
  cases hgrant : isGrant event with
  | true => exact List.countP_cons_of_pos hgrant
  | false => exact List.countP_cons_of_neg (by simp [hgrant])

/-- An event counts as one more if it is a start. -/
theorem started_cons (event : Event) (history : List Event) :
    started (event :: history) = started history + (isStart event).toNat := by
  unfold started
  cases hstart : isStart event with
  | true => exact List.countP_cons_of_pos hstart
  | false => exact List.countP_cons_of_neg (by simp [hstart])

/-- Whether a move gives up a frame that is pending. -/
def Course.givesUp (course : Course) : Move Request Reply → Bool
  | .begin .cancel => course.state.coalescer.isPending
  | .begin .request | .begin .fire | .answer _ => false

/-- How many of the moves give up a frame that is pending then. -/
def Course.givenUp (course : Course) : List (Move Request Reply) → Nat
  | [] => 0
  | move :: moves => (course.givesUp move).toNat + givenUp (course.step perform move) moves

/-! ## Requests -/

/-- What an operation does with the reply to its callback. -/
def resume : Callback → Reply → Recorded → Dialogue Recorded Callback Reply (Option Bool)
  | .schedule _, .ok handle, state => .done (.ok (some true)) (state.change (·.arm handle))
  | .cancel _, .ok _, state | .run, .ok _, state => .done (.ok none) state
  | .cancel handle, .error fault, state => .done (.ok none) (state.record [cancelRecord handle fault])
  | .schedule _, .error fault, state | .run, .error fault, state => .done (.error fault) state

variable {state : Recorded}

/-- A request while a frame is pending is refused. -/
theorem perform_request_of_isPending (h : state.coalescer.isPending = true) :
    perform .request state = .done (.ok (some false)) (state.change refuse) := by
  simp only [perform, request, bind_assoc, get_bind, h, if_true, modify_bind, pure_bind]
  rfl

/-- A request while no frame is pending asks for a timer first. -/
theorem perform_request_of_not_isPending (h : state.coalescer.isPending = false) :
    perform .request state =
      .call (.schedule state.coalescer.interval) state
        (resume (.schedule state.coalescer.interval)) := by
  simp only [perform, request, bind_assoc, get_bind, h, Bool.false_eq_true, if_false]
  show Dialogue.call _ _ _ = Dialogue.call _ _ _
  congr 1
  funext reply after
  cases reply <;> rfl

/-- The pending frame is given up before its timer is. -/
theorem perform_cancel_of_pending {handle : Nat} (h : state.coalescer.pending = some handle) :
    perform .cancel state =
      .call (.cancel handle) (state.change disarm) (resume (.cancel handle)) := by
  simp only [perform, cancel, bind_assoc, get_bind, h, modify_bind]
  show Dialogue.call _ _ _ = Dialogue.call _ _ _
  congr 1
  funext reply after
  cases reply <;> rfl

/-- Where no frame is pending, none is given up. -/
theorem perform_cancel_of_not_isPending (h : state.coalescer.isPending = false) :
    perform .cancel state = .done (.ok none) state := by
  have hnone : state.coalescer.pending = none := by
    cases hpending : state.coalescer.pending with
    | none => rfl
    | some handle => simp [isPending, hpending] at h
  have hsame : state.change disarm = state := by
    cases state with
    | mk coalescer records => simp only [Recorded.change, disarm, ← hnone]
  simp only [perform, cancel, bind_assoc, get_bind, hnone, modify_bind, hsame]
  rfl

/-- A timer starts the pending frame. -/
theorem perform_fire_of_isPending (h : state.coalescer.isPending = true) :
    perform .fire state =
      .call .run ((state.change start).record state.coalescer.startRecords) (resume .run) := by
  simp only [perform, fire, bind_assoc, get_bind, h, if_true]
  show Dialogue.call _ _ _ = Dialogue.call _ _ _
  congr 1
  funext reply after
  cases reply <;> rfl

/-- Where no frame is pending, a timer does nothing. -/
theorem perform_fire_of_not_isPending (h : state.coalescer.isPending = false) :
    perform .fire state = .done (.ok none) state := by
  simp only [perform, fire, bind_assoc, get_bind, h, Bool.false_eq_true, if_false]
  rfl

/-! ## What stays true -/

/-- What stays true of a course while the host keeps the rules and has given up `given` frames. -/
structure Course.IsSound (course : Course) (given : Nat) : Prop where
  /-- What waits is what the open callbacks have left to do. -/
  waiting : course.waiting = (openCalls course.history).map resume
  /-- No frame is pending while the host is asked for a timer. -/
  idle : course.awaitsTimer = true → course.state.coalescer.isPending = false
  /-- While the host is asked for a timer, it is asked for nothing else. -/
  last : ∀ callback ∈ (openCalls course.history).tail, callback.isForTimer = false
  /-- Each granted frame has started, was given up or is pending. -/
  balanced : granted course.history =
    started course.history + given + course.state.coalescer.isPending.toNat

variable {course : Course} {given : Nat}

/-- A new course is sound and has given up nothing. -/
theorem isSound_new (interval : Int) : (Course.new interval).IsSound 0 where
  waiting := rfl
  idle := nofun
  last := nofun
  balanced := rfl

/-- While a frame is pending, the host is not asked for a timer. -/
theorem Course.IsSound.not_awaitsTimer (h : course.IsSound given)
    (hpending : course.state.coalescer.isPending = true) : course.awaitsTimer = false := by
  cases hawaits : course.awaitsTimer with
  | false => rfl
  | true => rw [h.idle hawaits] at hpending; contradiction

/-- An operation that ends at once keeps a course sound if it neither grants a frame nor touches
the pending one. -/
theorem Course.IsSound.ended {asked : Request} {outcome : Except Fault (Option Bool)}
    (h : course.IsSound given)
    (hpending : state.coalescer.isPending = course.state.coalescer.isPending)
    (hgrant : isGrant (.ended outcome) = false) :
    IsSound ((course.note (.begun asked)).advance (.done outcome state)) given where
  waiting := h.waiting
  idle hawaits := hpending.trans (h.idle hawaits)
  last := h.last
  balanced := by
    show granted (.ended outcome :: .begun asked :: course.history) =
      started (.ended outcome :: .begun asked :: course.history) + given +
        state.coalescer.isPending.toNat
    rw [granted_cons, granted_cons, started_cons, started_cons, hgrant, hpending]
    exact h.balanced

/-- An operation that calls the host keeps a course sound if no frame is pending then, and the one
that was starts or is given up. -/
theorem Course.IsSound.called {asked : Request} {callback : Callback} {givenAfter : Nat}
    (h : course.IsSound given) (hawaits : course.awaitsTimer = false)
    (hpending : state.coalescer.isPending = false)
    (hgiven : given + course.state.coalescer.isPending.toNat =
      givenAfter + (isStart (.called callback)).toNat) :
    IsSound ((course.note (.begun asked)).advance (.call callback state (resume callback)))
      givenAfter where
  waiting := congrArg (resume callback :: ·) h.waiting
  idle _ := hpending
  last := by
    show ∀ callback ∈ openCalls course.history, callback.isForTimer = false
    intro callback hmem
    have hlast := h.last
    unfold Course.awaitsTimer at hawaits
    cases hopen : openCalls course.history with
    | nil => simp [hopen] at hmem
    | cons first others =>
      rw [hopen] at hawaits hmem hlast
      rcases List.mem_cons.mp hmem with rfl | hmem
      · exact hawaits
      · exact hlast callback hmem
  balanced := by
    show granted (.called callback :: .begun asked :: course.history) =
      started (.called callback :: .begun asked :: course.history) + givenAfter +
        state.coalescer.isPending.toNat
    rw [granted_cons, granted_cons, started_cons, started_cons, hpending, h.balanced]
    show started course.history + given + course.state.coalescer.isPending.toNat =
      started course.history + (isStart (.called callback)).toNat + givenAfter
    omega

/-- The reply to a callback keeps a course sound if the frame that it grants is pending then. -/
theorem Course.IsSound.answered {callback : Callback} {others : List Callback} {reply : Reply}
    {outcome : Except Fault (Option Bool)} (h : course.IsSound given)
    (hopen : openCalls course.history = callback :: others)
    (hpending : state.coalescer.isPending.toNat =
      course.state.coalescer.isPending.toNat + (isGrant (.ended outcome)).toNat) :
    IsSound (({ course with waiting := others.map resume }.note (.answered reply)).advance
      (.done outcome state)) given where
  waiting := by
    show others.map resume = (openCalls course.history).tail.map resume
    rw [hopen]
    rfl
  idle hawaits := by
    -- the callbacks that still wait are not for timers
    have hlast := h.last
    have hfirst : ((openCalls course.history).tail.head?.any (·.isForTimer)) = true := hawaits
    rw [hopen, List.tail_cons] at hlast hfirst
    cases others with
    | nil => contradiction
    | cons first others =>
      have hother : first.isForTimer = false := hlast first List.mem_cons_self
      rw [List.head?_cons, Option.any_some, hother] at hfirst
      contradiction
  last callback hmem := h.last callback (List.mem_of_mem_tail hmem)
  balanced := by
    show granted (.ended outcome :: .answered reply :: course.history) =
      started (.ended outcome :: .answered reply :: course.history) + given +
        state.coalescer.isPending.toNat
    rw [granted_cons, granted_cons, started_cons, started_cons, hpending, h.balanced]
    show started course.history + given + course.state.coalescer.isPending.toNat +
      (isGrant (.ended outcome)).toNat = started course.history + given + _
    omega

/-- A move with which the host keeps the rules keeps a course sound. -/
theorem Course.IsSound.step {move : Move Request Reply} (h : course.IsSound given)
    (hallows : course.allows move = true) :
    IsSound (course.step perform move) (given + (course.givesUp move).toNat) := by
  cases move with
  | begin asked =>
    simp only [Session.step]
    cases hpending : course.state.coalescer.isPending with
    | true =>
      have hawaits : course.awaitsTimer = false := h.not_awaitsTimer hpending
      cases asked with
      | request =>
        rw [perform_request_of_isPending hpending]
        exact h.ended rfl rfl
      | cancel =>
        obtain ⟨handle, hhandle⟩ := Option.isSome_iff_exists.mp hpending
        rw [perform_cancel_of_pending hhandle]
        refine h.called hawaits rfl ?_
        simp [givesUp, hpending, isStart]
      | fire =>
        rw [perform_fire_of_isPending hpending]
        refine h.called hawaits rfl ?_
        simp [givesUp, hpending, isStart]
    | false =>
      cases asked with
      | request =>
        have hawaits : course.awaitsTimer = false := by simpa [allows] using hallows
        rw [perform_request_of_not_isPending hpending]
        refine h.called hawaits hpending ?_
        simp [givesUp, hpending, isStart]
      | cancel =>
        rw [perform_cancel_of_not_isPending hpending]
        have hgiven : given + (course.givesUp (.begin .cancel)).toNat = given := by
          simp [givesUp, hpending]
        rw [hgiven]
        exact h.ended rfl rfl
      | fire =>
        rw [perform_fire_of_not_isPending hpending]
        exact h.ended rfl rfl
  | answer reply =>
    cases hopen : openCalls course.history with
    | nil =>
      have hwaiting : course.waiting = [] := by rw [h.waiting, hopen]; rfl
      simp only [Session.step, hwaiting]
      exact h
    | cons callback others =>
      have hwaiting : course.waiting = resume callback :: others.map resume := by
        rw [h.waiting, hopen]; rfl
      simp only [Session.step, hwaiting]
      cases callback with
      | schedule interval =>
        have hawaits : course.awaitsTimer = true := by simp [awaitsTimer, hopen, Callback.isForTimer]
        match reply with
        | .ok (some handle) =>
          refine h.answered hopen ?_
          simp [h.idle hawaits]
          rfl
        | .ok none => simp [allows, hawaits] at hallows
        | .error fault => exact h.answered hopen rfl
      | cancel handle =>
        cases reply with
        | ok handle => exact h.answered hopen rfl
        | error fault => exact h.answered hopen rfl
      | run =>
        cases reply with
        | ok handle => exact h.answered hopen rfl
        | error fault => exact h.answered hopen rfl

/-- Moves with which the host keeps the rules keep a course sound. -/
theorem Course.IsSound.run {moves : List (Move Request Reply)} (h : course.IsSound given)
    (hallows : course.allowsAll moves = true) :
    IsSound (course.run perform moves) (given + course.givenUp moves) := by
  induction moves generalizing course given with
  | nil => exact h
  | cons move moves ih =>
    simp only [allowsAll, Bool.and_eq_true] at hallows
    have hrest := ih (h.step hallows.1) hallows.2
    rw [Nat.add_assoc] at hrest
    exact hrest

/-! ## Refused timers -/

/-- While no frame is pending, timers that fire and frames that are given up change nothing. -/
theorem Course.run_of_not_isPending {inner : List Request} (hinner : .request ∉ inner)
    (hpending : course.state.coalescer.isPending = false) :
    (course.run perform (inner.map .begin)).state = course.state ∧
      (course.run perform (inner.map .begin)).waiting = course.waiting := by
  induction inner generalizing course with
  | nil => exact ⟨rfl, rfl⟩
  | cons asked inner ih =>
    obtain ⟨hasked, hinner⟩ : asked ≠ .request ∧ .request ∉ inner := by
      simpa [eq_comm] using hinner
    have hends : perform asked course.state = .done (.ok none) course.state := by
      cases asked with
      | request => exact absurd rfl hasked
      | cancel => exact perform_cancel_of_not_isPending hpending
      | fire => exact perform_fire_of_not_isPending hpending
    have hstep : course.step perform (.begin asked) =
        (course.note (.begun asked)).advance (.done (.ok none) course.state) := by
      simp only [Session.step, hends]
    rw [List.map_cons, Session.run, List.foldl_cons, hstep]
    exact ih hinner hpending

/-- A request that is refused its timer ends with the fault and changes nothing, whatever timers
fire while the host is asked. -/
theorem Course.run_request_of_error {inner : List Request} (fault : Fault)
    (hinner : .request ∉ inner) (hpending : course.state.coalescer.isPending = false) :
    let after := course.run perform
      (.begin .request :: (inner.map .begin ++ [.answer (.error fault)]))
    after.state = course.state ∧ after.waiting = course.waiting ∧
      after.history.head? = some (.ended (.error fault)) := by
  have hstep : course.step perform (.begin .request) =
      (course.note (.begun .request)).advance
        (.call (.schedule course.state.coalescer.interval) course.state
          (resume (.schedule course.state.coalescer.interval))) := by
    simp only [Session.step, perform_request_of_not_isPending hpending]
  have hasked : (course.step perform (.begin .request)).state.coalescer.isPending = false := by
    rw [hstep]
    exact hpending
  obtain ⟨hstate, hwaiting⟩ := Course.run_of_not_isPending hinner hasked
  intro after
  have hafter : after = ((course.step perform (.begin .request)).run perform
      (inner.map .begin)).step perform (.answer (.error fault)) := by
    simp only [after, Session.run, List.foldl_cons, List.foldl_append, List.foldl_nil]
  rw [hstep] at hafter hstate hwaiting
  rw [hafter, Session.step, hwaiting]
  exact ⟨hstate, rfl, rfl⟩

/-! ## The ledger -/

/-- However the host asks for frames, gives them up, fires timers and answers, every granted frame
has started, was given up while it was pending, or is pending now. A request that is refused its
timer leaves the coalescer as it was. -/
theorem granted_eq_started_add_givenUp (interval : Int) (moves : List (Move Request Reply))
    (hallows : (Course.new interval).allowsAll moves = true) :
    let course := (Course.new interval).run perform moves
    granted course.history = started course.history + (Course.new interval).givenUp moves +
        (if course.state.coalescer.isPending then 1 else 0) ∧
      ∀ (inner : List Request) (fault : Fault), .request ∉ inner →
        course.state.coalescer.isPending = false →
          let after := course.run perform
            (.begin .request :: (inner.map .begin ++ [.answer (.error fault)]))
          after.state = course.state ∧ after.waiting = course.waiting ∧
            after.history.head? = some (.ended (.error fault)) := by
  intro course
  refine ⟨?_, fun inner fault hinner hpending => Course.run_request_of_error fault hinner hpending⟩
  have hsound := (isSound_new interval).run hallows
  rw [Nat.zero_add] at hsound
  rw [hsound.balanced]
  cases course.state.coalescer.isPending <;> rfl

/-- A course in which a timer fires while it is still being asked for. The frame that runs asks for
another one and fails; that one is given up, and its timer fires all the same. -/
def crowded : List (Move Request Reply) :=
  [.begin .request, .begin .fire, .answer (.ok (some 1)), .begin .request,
    .begin .fire, .begin .request, .answer (.ok (some 2)), .answer (.error .wrongKind),
    .begin .cancel, .answer (.error .wrongKind), .begin .fire]

/-- Of the two frames granted in this course one started, one was given up and none is pending; a
request that is refused its timer changes nothing then. -/
theorem granted_eq_of_crowded :
    let course := (Course.new 16).run perform crowded
    ((Course.new 16).allowsAll crowded = true ∧ course.state.coalescer.isPending = false) ∧
      granted course.history = 1 + 1 + 0 ∧
      (course.run perform [.begin .request, .begin .fire, .answer (.error .wrongKind)]).state =
        course.state := by
  intro course
  have hallows : (Course.new 16).allowsAll crowded = true := by decide
  have hpending : course.state.coalescer.isPending = false := by decide
  have hstarted : started course.history = 1 := by decide
  have hgiven : (Course.new 16).givenUp crowded = 1 := by decide
  obtain ⟨hbalance, hrefused⟩ := granted_eq_started_add_givenUp 16 crowded hallows
  refine ⟨⟨hallows, hpending⟩, ?_, (hrefused [.fire] .wrongKind (by decide) hpending).1⟩
  calc granted course.history
      = started course.history + (Course.new 16).givenUp crowded +
          (if course.state.coalescer.isPending then 1 else 0) := hbalance
    _ = 1 + 1 + 0 := by rw [hstarted, hgiven, hpending]; rfl

end Breakpoint.Coalescer
