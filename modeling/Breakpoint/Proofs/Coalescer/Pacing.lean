import Breakpoint.Proofs.Coalescer.Grants
import Breakpoint.Proofs.Engine.Finality

/-!
# One live timer

A coalescer whose timers are the tasks of one schedule, which nothing else uses. Each of the two
calls the other: the coalescer schedules its timer and cancels it, and a flush of the schedule
fires the timers that are due. Both are put together here as they stand, and only the run of a
frame is left to the host, who may make any calls meanwhile and end it with a fault.

While a frame is pending, one task waits on the schedule, under the handle that the coalescer
holds; while none is, no task waits. A flush breaks this when it takes the due timer off the
schedule, but the timer fires before anything else happens, so the host never sees it broken.
-/

namespace Breakpoint.Coalescer

/-- A coalescer, with the records it has written, and the schedule of its timers. -/
structure Timed where
  recorded : Recorded
  frames : Frames Unit := {}

namespace Timed

variable {α : Type} {timed : Timed}

/-- The coalescer and its schedule, without the records. -/
def pacer (timed : Timed) : Pacer := ⟨timed.recorded.coalescer, timed.frames⟩

/-! ## The coalescer and the schedule together -/

/-- What a coalescer does when a schedule provides its timers and takes them back. -/
def served : Dialogue Recorded Callback Reply α → Frames Unit →
    Dialogue Timed Unit (Except Fault Unit) α
  | .done outcome recorded, frames => .done outcome ⟨recorded, frames⟩
  | .call (.schedule interval) recorded resume, frames =>
    served (resume (.ok (some frames.nextHandle)) recorded) (frames.schedule interval ())
  | .call (.cancel handle) recorded resume, frames =>
    served (resume (.ok none) recorded) (frames.cancel (.number handle))
  | .call .run recorded resume, frames =>
    .call () ⟨recorded, frames⟩ fun reply timed =>
      served (resume (reply.map fun _ => none) timed.recorded) timed.frames

/-- What a schedule does when its tasks are the timers of a coalescer. -/
def played : Dialogue (Frames Unit) Unit (Except Fault Unit) α → Recorded →
    Dialogue Timed Unit (Except Fault Unit) α
  | .done outcome frames, recorded => .done outcome ⟨recorded, frames⟩
  | .call _ frames resume, recorded =>
    (served (Coalescer.fire recorded) frames).andThen fun outcome timed =>
      played (resume outcome timed.frames) timed.recorded

/-- An operation of the coalescer, on its schedule. -/
def onSchedule (operation : Operation Recorded Callback Reply α) :
    Operation Timed Unit (Except Fault Unit) α :=
  fun timed => served (operation timed.recorded) timed.frames

/-- An operation of the schedule, on the timers of the coalescer. -/
def onTimers (operation : Operation (Frames Unit) Unit (Except Fault Unit) α) :
    Operation Timed Unit (Except Fault Unit) α :=
  fun timed => played (operation timed.frames) timed.recorded

/-- The requests to a coalescer on its schedule: those to the coalescer, and to flush the
schedule. -/
inductive Request where
  | request
  | cancel
  | flush (limit : Option Int)

/-- Serves a request; the answer says of a request whether it is for a new frame, and counts the
tasks of a flush. -/
def perform : Request → Operation Timed Unit (Except Fault Unit) (Option Bool ⊕ Nat)
  | .request => Sum.inl <$> onSchedule (Coalescer.perform .request)
  | .cancel => Sum.inl <$> onSchedule (Coalescer.perform .cancel)
  | .flush limit => Sum.inr <$> onTimers (Frames.flush limit)

/-- A coalescer and its schedule, before the first request. -/
def create (interval : Int) : Timed := { recorded := { coalescer := Coalescer.create interval } }

/-! ## What each request does -/

/-- A request arms the coalescer with the task it schedules, or is refused. -/
theorem onSchedule_request (timed : Timed) : ∃ isNew after,
    onSchedule (Coalescer.perform .request) timed = .done (.ok (some isNew)) after ∧
      after.pacer = timed.pacer.request := by
  cases hpending : timed.recorded.coalescer.isPending with
  | true =>
    refine ⟨false, ⟨timed.recorded.change refuse, timed.frames⟩, ?_, ?_⟩
    · rw [onSchedule, perform_request_of_isPending hpending, served]
    · have hbusy : timed.pacer.isPending = true := hpending
      rw [Pacer.request, if_pos hbusy]
      rfl
  | false =>
    have hidle : ¬timed.pacer.isPending = true := by
      rw [Pacer.isPending, pacer, hpending]
      exact Bool.false_ne_true
    refine ⟨true, ⟨timed.recorded.change (·.arm timed.frames.nextHandle),
      timed.frames.schedule timed.recorded.coalescer.interval ()⟩, ?_, ?_⟩
    · rw [onSchedule, perform_request_of_not_isPending hpending, served, resume, served]
    · rw [Pacer.request, if_neg hidle]
      rfl

/-- To give up the pending frame cancels its task. -/
theorem onSchedule_cancel (timed : Timed) : ∃ after,
    onSchedule (Coalescer.perform .cancel) timed = .done (.ok none) after ∧
      after.pacer = timed.pacer.cancel := by
  cases hpending : timed.recorded.coalescer.pending with
  | none =>
    have hidle : timed.recorded.coalescer.isPending = false := by rw [isPending, hpending]; rfl
    refine ⟨timed, ?_, ?_⟩
    · rw [onSchedule, perform_cancel_of_not_isPending hidle, served]
    · simp only [Pacer.cancel, pacer, hpending]
  | some handle =>
    refine ⟨⟨timed.recorded.change disarm, timed.frames.cancel (.number handle)⟩, ?_, ?_⟩
    · rw [onSchedule, perform_cancel_of_pending hpending, served, resume, served]
    · simp only [Pacer.cancel, pacer, hpending]
      rfl

/-- A timer that fires while a frame is pending starts the frame, and ends as the host ends it. -/
theorem onSchedule_fire (timed : Timed)
    (hpending : timed.recorded.coalescer.isPending = true) : ∃ started,
    started.pacer = timed.pacer.start ∧
      onSchedule Coalescer.fire timed = .call () started fun reply after => .done reply after := by
  refine ⟨⟨(timed.recorded.change start).record timed.recorded.coalescer.startRecords,
    timed.frames⟩, rfl, ?_⟩
  simp only [onSchedule, Coalescer.fire, Operation.get_bind, hpending, if_true]
  show Dialogue.call _ _ _ = Dialogue.call _ _ _
  congr 1
  funext reply after
  cases reply <;> rfl

/-- A flush that takes one task off the schedule runs it, and ends with its fault or counts it. -/
theorem flush_of_due_singleton {frames : Frames Unit} {limit : Option Int} {frame : Frame Unit}
    (hdue : frames.due limit = [frame]) :
    Frames.flush limit frames =
      .call () (frames.withoutDue limit) fun reply after => .done (reply.map fun _ => 1) after := by
  simp only [Frames.flush, Operation.get_bind, hdue]
  show Dialogue.call _ _ _ = Dialogue.call _ _ _
  congr 1
  funext reply after
  cases reply <;> rfl

/-- A flush does nothing, or starts the pending frame when its task has left the schedule. -/
theorem onTimers_flush (hexact : timed.pacer.IsExact) (limit : Option Int) :
    onTimers (Frames.flush limit) timed = .done (.ok 0) timed ∨
      ∃ started, started.pacer.IsExact ∧
        onTimers (Frames.flush limit) timed =
          .call () started fun reply after => .done (reply.map fun _ => 1) after := by
  obtain ⟨hdue, hkept⟩ | ⟨hpending, ⟨frame, hdue⟩, hleft⟩ := hexact.due_cases limit
  · left
    have hdue : timed.frames.due limit = [] := hdue
    have hkept : timed.frames.withoutDue limit = timed.frames := congrArg Pacer.frames hkept
    have hends : Frames.flush limit timed.frames = .done (.ok 0) (timed.frames.withoutDue limit) := by
      simp only [Frames.flush, Operation.get_bind, hdue]
      rfl
    rw [onTimers, hends, hkept, played]
  · right
    have hdue : timed.frames.due limit = [frame] := hdue
    obtain ⟨started, hstarted, hfires⟩ :=
      onSchedule_fire { timed with frames := timed.frames.withoutDue limit } hpending
    refine ⟨started, ?_, ?_⟩
    · rw [hstarted]
      exact Pacer.isExact_start hleft
    · rw [onSchedule] at hfires
      rw [onTimers, flush_of_due_singleton hdue, played, hfires]
      rfl

/-! ## Whenever the host has control -/

/-- Exactly the pending frame waits on the schedule whenever the host has control. -/
def exactness : Guarantee Timed where
  Valid timed := timed.pacer.IsExact
  Step _ _ := True
  refl _ := trivial
  trans _ _ := trivial

/-- Every request leaves exactly the pending frame on the schedule, whatever the host does while a
frame runs. -/
theorem upholds_perform (asked : Request) : (perform asked).Upholds exactness := by
  cases asked with
  | request =>
    apply Operation.Upholds.map
    intro timed hexact
    obtain ⟨isNew, after, hends, hafter⟩ := onSchedule_request timed
    rw [hends]
    refine ⟨?_, trivial⟩
    show after.pacer.IsExact
    rw [hafter]
    exact Pacer.IsExact.request hexact
  | cancel =>
    apply Operation.Upholds.map
    intro timed hexact
    obtain ⟨after, hends, hafter⟩ := onSchedule_cancel timed
    rw [hends]
    refine ⟨?_, trivial⟩
    show after.pacer.IsExact
    rw [hafter]
    exact Pacer.IsExact.cancel hexact
  | flush limit =>
    apply Operation.Upholds.map
    intro timed hexact
    obtain hends | ⟨started, hstarted, hcalls⟩ := onTimers_flush hexact limit
    · rw [hends]
      exact ⟨hexact, trivial⟩
    · rw [hcalls]
      exact ⟨hstarted, trivial, fun _ _ hafter => ⟨hafter, trivial⟩⟩

/-- Exactly the pending frame waits on the schedule at every moment of a session. -/
theorem isExact_run (interval : Int) (moves : List (Move Request (Except Fault Unit))) :
    (Session.run perform { state := create interval } moves).state.pacer.IsExact :=
  ((Session.upheld_new (Pacer.isExact_create interval)).run upholds_perform moves).1.valid

end Timed

/-- An exact pacer has one task on its schedule while a frame is pending, under the handle of the
frame, and none otherwise. -/
theorem scheduled_of_isExact {pacer : Pacer} (h : pacer.IsExact) :
    (∀ handle, pacer.coalescer.pending = some handle →
      ∃ frame, pacer.frames.scheduled = [frame] ∧ frame.handle = handle) ∧
    (pacer.coalescer.pending = none → pacer.frames.scheduled = []) := by
  rw [Pacer.IsExact] at h
  constructor
  · intro handle hpending
    rwa [hpending, Option.toList_some, List.map_eq_singleton_iff] at h
  · intro hnone
    rwa [hnone, Option.toList_none, List.map_eq_nil_iff] at h

/-- Whenever the host has control, also while a frame runs and after it has ended with a fault, a
coalescer that is pending has one task on its schedule, under the handle that it holds, and one
that is not has none. So a frame of an engine is pending exactly if one task is scheduled. -/
theorem scheduled_iff_pending :
    (∀ (interval : Int) (moves : List (Move Timed.Request (Except Fault Unit))),
      let timed := (Session.run Timed.perform { state := Timed.create interval } moves).state
      (∀ handle, timed.recorded.coalescer.pending = some handle →
        ∃ frame, timed.frames.scheduled = [frame] ∧ frame.handle = handle) ∧
      (timed.recorded.coalescer.pending = none → timed.frames.scheduled = [])) ∧
    (∀ (options : EngineOptions) (moves : List (Move Engine.Request (Except Fault Unit))),
      let pacer := (Engine.sessionAfter options moves).state.pacer
      pacer.isPending = true ↔ pacer.frames.scheduled.length = 1) := by
  constructor
  · intro interval moves
    exact scheduled_of_isExact (Timed.isExact_run interval moves)
  · intro options moves pacer
    have hexact : pacer.IsExact := (Engine.upheld_sessionAfter options moves).valid.paced
    obtain ⟨hone, hnone⟩ := scheduled_of_isExact hexact
    rw [Pacer.isPending, Coalescer.isPending]
    cases hpending : pacer.coalescer.pending with
    | none => simp [hnone hpending]
    | some handle =>
      obtain ⟨frame, hscheduled, -⟩ := hone handle hpending
      simp [hscheduled]

end Breakpoint.Coalescer
