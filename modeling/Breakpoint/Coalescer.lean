import Breakpoint.Log
import Breakpoint.Dialogue
import Breakpoint.Value.Number

/-!
# Coalescing signals into frames

A burst of signals asks for one frame. While a frame is pending, further requests are refused
and only counted. A timer that fires while no frame is pending does nothing.

The host provides the timers, and may do so in any way: it may refuse, give no handle, or call
back before it gives one.
-/

namespace Breakpoint

/-- A coalescer: the wait for a frame in milliseconds, the handle of the pending frame, and how
many requests were refused since the counter was last reset. -/
structure Coalescer where
  interval : Int
  pending : Option Nat := none
  coalesced : Nat := 0
  deriving DecidableEq

namespace Coalescer

/-- A frame is waited for at least one millisecond. -/
def create (interval : Int) : Coalescer := { interval := max 1 interval }

/-- The wait that a value of the settings means. -/
def intervalOf (value : Value) : Except Fault Int := value.toInt.map (max 1)

/-- Whether a frame is pending. -/
def isPending (coalescer : Coalescer) : Bool := coalescer.pending.isSome

/-- Counts a refused request. -/
def refuse (coalescer : Coalescer) : Coalescer :=
  { coalescer with coalesced := coalescer.coalesced + 1 }

/-- Notes the handle that a request was given, if any. -/
def arm (coalescer : Coalescer) (handle : Option Nat) : Coalescer :=
  { coalescer with pending := handle }

/-- Forgets the pending frame and leaves the counter as it is. -/
def disarm (coalescer : Coalescer) : Coalescer := { coalescer with pending := none }

/-- The coalescer when its frame starts: nothing is pending, and the counter starts again. -/
def start (coalescer : Coalescer) : Coalescer :=
  { coalescer with pending := none, coalesced := 0 }

/-- The record of a frame that stands for more than one signal. -/
def startRecords (coalescer : Coalescer) : List LogRecord :=
  if coalescer.coalesced = 0 then []
  else
    [⟨.debug, .notifier, "Frame sweep running after " ++ toString coalescer.coalesced
      ++ " coalesced size signals", none⟩]

/-- The record of a frame that could not be cancelled. -/
def cancelRecord (handle : Nat) (fault : Fault) : LogRecord :=
  ⟨.debug, .notifier, "Failed to cancel pending frame " ++ toString handle ++ ": " ++ fault.text,
    none⟩

/-- What a coalescer asks of its host. -/
inductive Callback where
  | schedule (interval : Int)
  | cancel (handle : Nat)
  | run
  deriving DecidableEq

/-- The host's reply: a handle if it gives one, or a fault. -/
abbrev Reply := Except Fault (Option Nat)

/-- A coalescer with the records it has written, the last first. -/
structure Recorded where
  coalescer : Coalescer
  records : List LogRecord := []

/-- Changes the coalescer. -/
def Recorded.change (state : Recorded) (f : Coalescer → Coalescer) : Recorded :=
  { state with coalescer := f state.coalescer }

/-- Writes records. -/
def Recorded.record (state : Recorded) (records : List LogRecord) : Recorded :=
  { state with records := records.reverse ++ state.records }

/-- Asks for a frame; the result says whether it is a new one. -/
def request : Operation Recorded Callback Reply Bool := do
  let state ← Operation.get
  if state.coalescer.isPending then
    Operation.modify (·.change refuse)
    return false
  else
    let handle ← Operation.callOrFail (.schedule state.coalescer.interval)
    Operation.modify (·.change (·.arm handle))
    return true

/-- Gives up the pending frame. That its timer cannot be cancelled is only recorded. -/
def cancel : Operation Recorded Callback Reply Unit := do
  let state ← Operation.get
  Operation.modify (·.change disarm)
  match state.coalescer.pending with
  | none => pure ()
  | some handle =>
    match ← Operation.call (.cancel handle) with
    | .ok _ => pure ()
    | .error fault => Operation.modify (·.record [cancelRecord handle fault])

/-- A timer fires. -/
def fire : Operation Recorded Callback Reply Unit := do
  let state ← Operation.get
  if state.coalescer.isPending then
    Operation.set ((state.change start).record state.coalescer.startRecords)
    let _ ← Operation.callOrFail .run
  else pure ()

/-- The requests to a coalescer. -/
inductive Request where
  | request
  | cancel
  | fire
  deriving DecidableEq

/-- Serves a request; the answer says of a request whether it is for a new frame. -/
def perform : Request → Operation Recorded Callback Reply (Option Bool)
  | .request => return some (← request)
  | .cancel => do
    cancel
    return none
  | .fire => do
    fire
    return none

end Coalescer

end Breakpoint
