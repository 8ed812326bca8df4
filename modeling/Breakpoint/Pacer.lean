import Breakpoint.Coalescer
import Breakpoint.Frames

/-!
# A coalescer on a schedule of its own

A pacer is a coalescer whose timers are the tasks of one schedule that nothing else uses. A
frame is pending exactly when one task waits, and the task bears the handle that the coalescer
holds.
-/

namespace Breakpoint

/-- A coalescer and its schedule. -/
structure Pacer where
  coalescer : Coalescer
  frames : Frames Unit := {}

namespace Pacer

/-- A pacer that waits for its frames as long as the settings say. -/
def create (interval : Int) : Pacer := { coalescer := .create interval }

/-- Whether a frame is pending. -/
def isPending (pacer : Pacer) : Bool := pacer.coalescer.isPending

/-- Asks for a frame. -/
def request (pacer : Pacer) : Pacer :=
  if pacer.isPending then { pacer with coalescer := pacer.coalescer.refuse }
  else
    { coalescer := pacer.coalescer.arm pacer.frames.nextHandle
      frames := pacer.frames.schedule pacer.coalescer.interval () }

/-- Gives up the pending frame. -/
def cancel (pacer : Pacer) : Pacer :=
  match pacer.coalescer.pending with
  | none => pacer
  | some handle =>
    { coalescer := pacer.coalescer.disarm, frames := pacer.frames.cancel (.number handle) }

/-- Takes the tasks that a flush runs off the schedule. -/
def withoutDue (pacer : Pacer) (limit : Option Int) : Pacer :=
  { pacer with frames := pacer.frames.withoutDue limit }

/-- The pacer when its frame starts. -/
def start (pacer : Pacer) : Pacer := { pacer with coalescer := pacer.coalescer.start }

/-- The records of a frame that starts. -/
def startRecords (pacer : Pacer) : List LogRecord := pacer.coalescer.startRecords

/-- A task of the schedule runs: it starts the pending frame, if there is one. -/
def fire : Operation Pacer Unit (Except Fault Unit) Unit := do
  let pacer ← Operation.get
  if pacer.isPending then
    Operation.set pacer.start
    Operation.callOrFail ()
  else pure ()

/-- Runs the tasks that are due and counts them. -/
def flush (limit : Option Int) : Operation Pacer Unit (Except Fault Unit) Nat := do
  let pacer ← Operation.get
  Operation.set (pacer.withoutDue limit)
  Operation.forAll (fun _ => fire) (pacer.frames.due limit)
  return (pacer.frames.due limit).length

/-- The requests to a pacer. -/
inductive Request where
  | request
  | cancel
  | flush (limit : Option Int)

/-- Serves a request; the answer counts the tasks of a flush. -/
def perform : Request → Operation Pacer Unit (Except Fault Unit) (Option Nat)
  | .request => do
    Operation.modify (·.request)
    return none
  | .cancel => do
    Operation.modify (·.cancel)
    return none
  | .flush limit => return some (← flush limit)

/-- Exactly the pending frame waits on the schedule. -/
def IsExact (pacer : Pacer) : Prop :=
  pacer.frames.scheduled.map (·.handle) = pacer.coalescer.pending.toList

/-- A new pacer is exact, as it has scheduled nothing. -/
theorem isExact_create (interval : Int) : (create interval).IsExact := rfl

/-- After a request a frame is pending. -/
theorem isPending_request (pacer : Pacer) : pacer.request.isPending = true := by
  unfold Pacer.request
  split
  · next pending => exact pending
  · rfl

/-- A request leaves exactly the pending frame on the schedule. -/
theorem IsExact.request {pacer : Pacer} (h : pacer.IsExact) : pacer.request.IsExact := by
  unfold Pacer.request
  split
  · exact h
  · next idle =>
    have none_pending : pacer.coalescer.pending = none := by
      simpa [isPending, Coalescer.isPending] using idle
    have empty : pacer.frames.scheduled = [] := by
      simpa [IsExact, none_pending] using h
    simp [IsExact, Coalescer.arm, Frames.schedule, empty]

/-- A given up frame does not wait on the schedule. -/
theorem IsExact.cancel {pacer : Pacer} (h : pacer.IsExact) : pacer.cancel.IsExact := by
  unfold Pacer.cancel
  split
  · exact h
  · next handle pending =>
    simp only [IsExact, pending, Option.toList_some, Coalescer.disarm, Option.toList_none,
      Frames.cancel, FrameKey.toInt] at h ⊢
    rw [List.map_eq_nil_iff, List.filter_eq_nil_iff]
    intro frame member
    have : frame.handle ∈ pacer.frames.scheduled.map (·.handle) := List.mem_map_of_mem member
    rw [h, List.mem_singleton] at this
    simp [this]

/-- Nothing is due, or the pending frame is, and it leaves the schedule empty. -/
theorem IsExact.due_cases {pacer : Pacer} (h : pacer.IsExact) (limit : Option Int) :
    pacer.frames.due limit = [] ∧ pacer.withoutDue limit = pacer ∨
      pacer.isPending = true ∧ (∃ frame, pacer.frames.due limit = [frame]) ∧
        (pacer.withoutDue limit).frames.scheduled = [] := by
  have hkept : pacer.frames.scheduled.drop (pacer.frames.dueCount limit) = pacer.frames.scheduled →
      pacer.withoutDue limit = pacer := by
    intro hsame
    simp only [withoutDue, Frames.withoutDue, hsame]
  have hleft : (pacer.withoutDue limit).frames.scheduled =
      pacer.frames.scheduled.drop (pacer.frames.dueCount limit) := rfl
  rw [IsExact] at h
  rw [hleft, Frames.due, isPending, Coalescer.isPending]
  cases hpending : pacer.coalescer.pending with
  | none =>
    rw [hpending, Option.toList_none, List.map_eq_nil_iff] at h
    rw [h, List.drop_nil] at hkept
    rw [h, List.take_nil]
    exact .inl ⟨rfl, hkept rfl⟩
  | some number =>
    rw [hpending, Option.toList_some, List.map_eq_singleton_iff] at h
    obtain ⟨frame, hscheduled, -⟩ := h
    rw [hscheduled] at hkept ⊢
    cases hcount : pacer.frames.dueCount limit with
    | zero =>
      rw [hcount] at hkept
      exact .inl ⟨rfl, hkept rfl⟩
    | succ count => exact .inr ⟨rfl, ⟨frame, by simp⟩, by simp⟩

/-- The pending frame starts when it has left the schedule. -/
theorem isExact_start {pacer : Pacer} (h : pacer.frames.scheduled = []) : pacer.start.IsExact := by
  show pacer.frames.scheduled.map (·.handle) = []
  rw [h, List.map_nil]

end Pacer

end Breakpoint
