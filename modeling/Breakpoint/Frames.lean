import Breakpoint.Dialogue
import Breakpoint.Value

/-!
# Scheduled frames

Tasks wait for the next frame in the order in which they were scheduled. A flush takes the
tasks that are due off the schedule before it runs the first, so what they schedule waits for
the next flush, and what a fault keeps from running is lost.
-/

namespace Breakpoint

/-- A task that waits, with the handle by which it is cancelled. -/
structure Frame (τ : Type) where
  handle : Nat
  delay : Int
  task : τ

/-- What may be given to cancel a task; truth counts one. -/
inductive FrameKey where
  | number (value : Int)
  | flag (value : Bool)
  deriving DecidableEq, Repr

/-- The handle that a key means. -/
def FrameKey.toInt : FrameKey → Int
  | .number value => value
  | .flag value => if value then 1 else 0

/-- The key that a value means: only integers and truth values are keys. -/
def FrameKey.ofValue? : Value → Option FrameKey
  | .int value => some (.number value)
  | .bool value => some (.flag value)
  | _ => none

/-- A schedule of tasks `τ`: those that wait, the keys that were cancelled, and how many
handles were issued. -/
structure Frames (τ : Type) where
  scheduled : List (Frame τ) := []
  cancelled : List FrameKey := []
  issued : Nat := 0

namespace Frames

variable {τ : Type}

/-- The handle of the next task. -/
def nextHandle (frames : Frames τ) : Nat := frames.issued + 1

/-- Schedules a task last. -/
def schedule (frames : Frames τ) (delay : Int) (task : τ) : Frames τ :=
  { frames with
    scheduled := frames.scheduled ++ [⟨frames.nextHandle, delay, task⟩]
    issued := frames.nextHandle }

/-- Notes a key as cancelled and takes its task off the schedule. -/
def cancel (frames : Frames τ) (key : FrameKey) : Frames τ :=
  { frames with
    scheduled := frames.scheduled.filter fun frame => (frame.handle : Int) ≠ key.toInt
    cancelled := frames.cancelled ++ [key] }

/-- The limit that a value means for a flush: none, or how many tasks at most. -/
def limitOf : Value → Except Fault (Option Int)
  | .null => .ok none
  | .int value => .ok (some value)
  | .bool value => .ok (some (if value then 1 else 0))
  | .float _ | .text _ | .list _ | .dict _ => .error .wrongKind

/-- How many tasks a flush runs: all, or as many as the limit says; a negative limit counts
from the end of the schedule. -/
def dueCount (frames : Frames τ) : Option Int → Nat
  | none => frames.scheduled.length
  | some (.ofNat limit) => min limit frames.scheduled.length
  | some (.negSucc n) => frames.scheduled.length - (n + 1)

/-- The tasks that a flush runs. -/
def due (frames : Frames τ) (limit : Option Int) : List (Frame τ) :=
  frames.scheduled.take (frames.dueCount limit)

/-- The schedule without the tasks that a flush runs. -/
def withoutDue (frames : Frames τ) (limit : Option Int) : Frames τ :=
  { frames with scheduled := frames.scheduled.drop (frames.dueCount limit) }

/-- Runs the tasks that are due and counts them. -/
def flush (limit : Option Int) : Operation (Frames τ) τ (Except Fault Unit) Nat := do
  let frames ← Operation.get
  Operation.set (frames.withoutDue limit)
  Operation.forAll (fun frame => Operation.callOrFail frame.task) (frames.due limit)
  return (frames.due limit).length

/-- The requests to a schedule. -/
inductive Request (τ : Type) where
  | after (delay : Int) (task : τ)
  | cancel (key : FrameKey)
  | flush (limit : Option Int)

/-- Serves a request; the answer is a handle or a count where there is one. -/
def perform : Request τ → Operation (Frames τ) τ (Except Fault Unit) (Option Nat)
  | .after delay task => do
    let frames ← Operation.get
    Operation.set (frames.schedule delay task)
    return some frames.nextHandle
  | .cancel key => do
    Operation.modify (·.cancel key)
    return none
  | .flush limit => return some (← flush limit)

end Frames

end Breakpoint
