import Breakpoint.Overrides
import Breakpoint.Pacer
import Breakpoint.Preferences
import Breakpoint.Query
import Breakpoint.Viewport

/-!
# The state of an engine

An engine keeps one live handle for each query it was asked for, the overrides, and a pacer
that turns new sizes into frames. Besides what the host can ask for, the state holds the
switches of the host's viewport, the room that the host leaves on the stack, and a journal of what
the engine did, the last first.

Handles are numbered in the order in which they were made, and a handle outlives its
registration.
-/

namespace Breakpoint

/-- A change of a query's answer, as listeners are told of it. -/
structure ChangeEvent where
  isMatch : Bool
  media : Text
  deriving DecidableEq

/-- Who listens to a handle: a function of the host, or a binding on behalf of a receiver. -/
inductive Listener where
  | named (name : Text)
  | bound (binding : Nat) (receiver : Text)
  deriving DecidableEq

/-- What an engine asks of its host: to pass an event to a listener, or a value to the
receiver of a binding. -/
inductive Callback where
  | notify (handle : Nat) (name : Text) (event : ChangeEvent)
  | deliver (binding : Nat) (receiver : Text) (isMatch : Bool)
  deriving DecidableEq

/-- The live answer of one query. -/
structure Handle where
  media : Text
  query : Option Query
  isMatch : Bool
  listeners : List Listener := []
  onChange : Option Listener := none
  isDetached : Bool := false
  deriving DecidableEq

namespace Handle

/-- Adds a listener last, unless it is there. -/
def addListener (handle : Handle) (listener : Listener) : Handle :=
  if listener ∈ handle.listeners then handle
  else { handle with listeners := handle.listeners ++ [listener] }

/-- Removes a listener, if it is there. -/
def removeListener (handle : Handle) (listener : Listener) : Handle :=
  { handle with listeners := handle.listeners.erase listener }

/-- The event that tells of the handle's answer. -/
def event (handle : Handle) : ChangeEvent := ⟨handle.isMatch, handle.media⟩

/-- A handle in one line. -/
def summary (handle : Handle) : Text :=
  "PreviewMediaQueryList(media=" ++ Text.quoted handle.media ++ ", matches="
    ++ (Value.bool handle.isMatch).display ++ ")"

end Handle

/-- How many further passes a sweep may take. -/
inductive FollowUpLimit where
  | atMost (passes : Int)
  /-- A limit that no number can be compared with. -/
  | incomparable
  deriving DecidableEq, Repr

/-- The limit that a value of the settings means. An infinite limit is cut to a number of
passes that no sweep reaches. -/
def FollowUpLimit.ofValue : Value → FollowUpLimit
  | .int passes => .atMost passes
  | .bool value => .atMost (if value then 1 else 0)
  | .float value =>
    match Decimal.partsOf value with
    | .nan | .infinite false => .atMost (Nat.pow 2 1024)
    | .infinite true => .atMost 0
    | .finite negative significand exponent =>
      .atMost (Decimal.truncate negative significand exponent)
  | .null | .text _ | .list _ | .dict _ => .incomparable

/-- Why a sweep was started. -/
inductive SweepReason where
  | overrides
  | resize
  deriving DecidableEq, Repr

/-- The word for a reason. -/
def SweepReason.text : SweepReason → Text
  | .overrides => "overrides"
  | .resize => "resize"

/-- What an engine did. -/
inductive Entry where
  | record (record : LogRecord)
  | sweepBegan (reason : SweepReason)
  | passBegan
  | sweepEnded
  /-- A handle was made, with its first answer. -/
  | handleMade (handle : Nat) (isMatch : Bool)
  /-- The answer of a handle changed, and its listeners are told. -/
  | dispatchBegan (handle : Nat) (isMatch : Bool)
  /-- A listener is told of an event of a handle. -/
  | told (handle : Nat) (event : ChangeEvent) (listener : Listener)
  | dispatchEnded (handle : Nat)
  | called (callback : Callback)
  /-- A binding listens to a handle from now on. -/
  | bindingJoined (binding handle : Nat)
  deriving DecidableEq

/-- The preferences of the host: known, or failing to be told. -/
inductive HostSource where
  | known (preferences : Preferences)
  | failing
  deriving DecidableEq

/-- Switches of the host's viewport: asking for the size may fail or give any value, and to
stop observing may fail. -/
structure Provider where
  sizeFails : Bool := false
  rawSize : Option Value := none
  unobserveFails : Bool := false

/-- A query bound to a receiver, with the handle it listens to once it does. -/
structure Binding where
  receiver : Text
  handle : Option Nat := none
  deriving DecidableEq

/-- What an engine is made of. -/
structure EngineOptions where
  width : Extent
  height : Extent
  frameInterval : Int := 16
  followUps : FollowUpLimit := .atMost 8
  settingsOverrides : Dict Value := {}
  overrides : Dict Value := {}
  host : HostSource := .known {}
  sizeFails : Bool := false
  room : Nat := usualRoom

/-- An engine. -/
structure Engine where
  followUps : FollowUpLimit
  viewport : Viewport Unit
  provider : Provider
  host : HostSource
  pacer : Pacer
  overrides : Dict Text
  parsed : Dict (Option Query) := {}
  handles : List Handle := []
  registry : Dict Nat := {}
  bindings : List Binding := []
  isObserving : Bool := true
  isSweeping : Bool := false
  followUpRequested : Bool := false
  isDestroyed : Bool := false
  room : Nat := usualRoom
  journal : List Entry := []

namespace Engine

/-- The overrides that an engine starts with: those of the settings, then its own, which may
also take one of the settings away. -/
def initialOverrides (options : EngineOptions) : Dict Value :=
  options.settingsOverrides.insertAll options.overrides.entries

/-- A new engine, which observes its viewport. -/
def create (options : EngineOptions) : Engine :=
  { followUps := options.followUps
    viewport := Viewport.observe { width := options.width, height := options.height } ()
    provider := { sizeFails := options.sizeFails }
    host := options.host
    pacer := .create options.frameInterval
    overrides := Overrides.normalise (initialOverrides options)
    room := options.room
    journal := ((Overrides.normaliseRecords (initialOverrides options)).map .record).reverse }

/-- A new engine, unless one of its overrides has no text. -/
def create? (options : EngineOptions) : Except Fault Engine :=
  match Overrides.fault? options.room (initialOverrides options) with
  | some fault => .error fault
  | none => .ok (create options)

/-- The handle of a number. -/
def handle? (engine : Engine) (number : Nat) : Option Handle := engine.handles[number]?

/-- How many handles are registered. -/
def handleCount (engine : Engine) : Nat := engine.registry.entries.length

/-- Writes an entry into the journal. -/
def note (engine : Engine) (entry : Entry) : Engine :=
  { engine with journal := entry :: engine.journal }

/-- Writes records into the journal. -/
def noteRecords (engine : Engine) (records : List LogRecord) : Engine :=
  { engine with journal := (records.map .record).reverse ++ engine.journal }

/-- Changes one handle. -/
def changeHandle (engine : Engine) (number : Nat) (change : Handle → Handle) : Engine :=
  { engine with handles := engine.handles.modify number change }

/-- Makes a handle the live one of its query, under the next number. -/
def register (engine : Engine) (handle : Handle) : Engine :=
  { engine with
    handles := engine.handles ++ [handle]
    registry := engine.registry.insert handle.media engine.handles.length }.note
      (.handleMade engine.handles.length handle.isMatch)

/-- Gives a handle another answer, of which its listeners are told next. -/
def changeAnswer (engine : Engine) (number : Nat) (isMatch : Bool) : Engine :=
  (engine.changeHandle number ({ · with isMatch })).note (.dispatchBegan number isMatch)

/-- Remembers the tree of a query, and writes the records of its reading. -/
def remember (engine : Engine) (media : Text) (tree : Option Query) (records : List LogRecord) :
    Engine :=
  { engine with parsed := engine.parsed.insert media tree }.noteRecords records

/-- Adds a binding that does not listen yet. -/
def addBinding (engine : Engine) (receiver : Text) : Engine :=
  { engine with bindings := engine.bindings ++ [{ receiver }] }

/-- Notes the handle that a binding listens to. -/
def joinBinding (engine : Engine) (binding number : Nat) : Engine :=
  { engine with
    bindings := engine.bindings.modify binding ({ · with handle := some number }) }.note
      (.bindingJoined binding number)

/-- A sweep begins. -/
def beginSweep (engine : Engine) (reason : SweepReason) : Engine :=
  { engine with isSweeping := true }.note (.sweepBegan reason)

/-- A sweep ends. -/
def endSweep (engine : Engine) : Engine := { engine with isSweeping := false }.note .sweepEnded

/-- A pass begins, for which no further one is asked yet. -/
def beginPass (engine : Engine) : Engine :=
  { engine with followUpRequested := false }.note .passBegan

/-- Asks the sweep under way for a further pass. -/
def requestFollowUp (engine : Engine) : Engine := { engine with followUpRequested := true }

/-- Drops the wish for a further pass. -/
def dropFollowUp (engine : Engine) : Engine := { engine with followUpRequested := false }

/-- The records of the journal, in order. -/
def records (engine : Engine) : List LogRecord :=
  engine.journal.reverse.filterMap fun entry =>
    match entry with
    | .record record => some record
    | _ => none

end Engine

end Breakpoint
