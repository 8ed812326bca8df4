import Breakpoint.Engine.Sweep
import Breakpoint.Query.Parse

/-!
# The operations of an engine

What a host may ask of an engine and of its handles and bindings, and the switches of the
host's own side. A query that is no text is taken by its text. What nests deeper than the host
leaves room for on the stack is refused, and then nothing is remembered of it.
-/

namespace Breakpoint.Engine

/-- The tree of a query, read once and then remembered. A reading that does not end is not. -/
def parseCached (media : Text) : Act (Option Query) := do
  let engine ← Operation.get
  match engine.parsed.get? media with
  | some tree => return tree
  | none =>
    let (tree, records) ← Operation.lift (Query.parseLogged engine.room media)
    Operation.modify (·.remember media tree records)
    return tree

/-- The answer that a new handle starts with. -/
def firstAnswer (tree : Option Query) : Act Bool := do
  match tree with
  | none => return false
  | some query =>
    match ← readSize with
    | none => return false
    | some size => answer query size (← readHost)

/-- The number of the live handle for the text of a query, which is made at its first use. -/
def matchText (media : Text) : Act Nat := do
  match (← Operation.get).registry.get? media with
  | some number => return number
  | none =>
    let tree ← parseCached media
    let isMatch ← firstAnswer tree
    let number := (← Operation.get).handles.length
    Operation.modify (·.register { media, query := tree, isMatch })
    return number

/-- The number of the live handle for a query, if it has a text. -/
def matchMedia (query : Value) : Act Nat := do
  let engine ← Operation.get
  matchText (← Operation.lift (query.toText engine.room))

/-- The engine with a listener added to a handle. No listener is one that is not added. -/
def listen (engine : Engine) (number : Nat) : Option Listener → Engine
  | some listener => engine.changeHandle number (·.addListener listener)
  | none => engine

/-- The engine with a listener removed from a handle. -/
def unlisten (engine : Engine) (number : Nat) : Option Listener → Engine
  | some listener => engine.changeHandle number (·.removeListener listener)
  | none => engine

/-- Adds a listener to a handle. -/
def addListener (number : Nat) (listener : Option Listener) : Act Unit :=
  Operation.modify (·.listen number listener)

/-- The one type of events. -/
def changeType : Text := "change"

/-- The engine with a listener added for a type of events. -/
def listenTo (engine : Engine) (number : Nat) (type : Text) (listener : Option Listener) :
    Engine :=
  if type = changeType then engine.listen number listener else engine

/-- The engine with a listener removed for a type of events. -/
def unlistenTo (engine : Engine) (number : Nat) (type : Text) (listener : Option Listener) :
    Engine :=
  if type = changeType then engine.unlisten number listener else engine

/-- The engine with a listener in the slot of a handle, or with an empty slot. -/
def setOnChange (engine : Engine) (number : Nat) (listener : Option Listener) : Engine :=
  engine.changeHandle number ({ · with onChange := listener })

/-- Passes a value to the receiver of a binding. -/
def deliver (binding : Nat) (receiver : Text) (isMatch : Bool) : Act Unit := do
  let callback := Callback.deliver binding receiver isMatch
  Operation.modify (·.note (.called callback))
  Operation.callOrFail callback

/-- The engine with the record of a query that cannot be asked for, unless it cannot be shown. -/
def recordRefusal (engine : Engine) (query : Value) (fault : Fault) : Engine :=
  match query.textFault? engine.room with
  | some _ => engine
  | none =>
    engine.note (.record ⟨.error, .binding,
      "Failed to register preview media query " ++ query.inner, some fault⟩)

/-- Binds a query to a receiver: it is given the present answer first, and then each change. A
query that cannot be asked for is recorded and answered with no, once and for all. -/
def bind (query : Value) (receiver : Text) : Act Nat := do
  let binding := (← Operation.get).bindings.length
  Operation.modify (·.addBinding receiver)
  match ← (matchMedia query).attempt with
  | .error fault =>
    Operation.modify (·.recordRefusal query fault)
    deliver binding receiver false
  | .ok number =>
    deliver binding receiver (((← Operation.get).handle? number).any (·.isMatch))
    Operation.modify (·.listenTo number changeType (some (.bound binding receiver)))
    Operation.modify (·.joinBinding binding number)
  return binding

/-- The engine when a binding has ended. -/
def unbind (engine : Engine) (binding : Nat) : Engine :=
  match engine.bindings[binding]? with
  | some { receiver, handle := some number } =>
    engine.unlistenTo number changeType (some (.bound binding receiver))
  | _ => engine

/-- The engine is told of a new size. -/
def sizeChanged (engine : Engine) : Engine :=
  if engine.isObserving then { engine with pacer := engine.pacer.request } else engine

/-- The engine when the viewport has a new size, of which each observer is told. -/
def resize (engine : Engine) (width height : Extent) : Engine :=
  let engine := { engine with viewport := engine.viewport.resize width height }
  engine.viewport.observers.foldl (fun engine _ => engine.sizeChanged) engine

/-- Sets the size of the viewport and tells its observers. -/
def setSize (width height : Extent) : Act Unit := Operation.modify (·.resize width height)

/-- The engine when its pending frame starts. -/
def startFrame (engine : Engine) : Engine :=
  { engine with pacer := engine.pacer.start }.noteRecords engine.pacer.startRecords

/-- A timer of the engine's frames fires. -/
def runFrame : Act Unit := do
  let engine ← Operation.get
  if engine.pacer.isPending then
    Operation.modify (·.startFrame)
    sweep .resize
  else pure ()

/-- The engine with the tasks that a flush runs off its schedule. -/
def takeDue (engine : Engine) (limit : Option Int) : Engine :=
  { engine with pacer := engine.pacer.withoutDue limit }

/-- Runs the frames that are due and counts them. -/
def flush (limit : Option Int) : Act Nat := do
  let engine ← Operation.get
  let due := engine.pacer.frames.due limit
  Operation.modify (·.takeDue limit)
  Operation.forAll (fun _ => runFrame) due
  return due.length

/-- The engine with other overrides. -/
def replaceOverrides (engine : Engine) (values : Dict Value) : Engine :=
  { engine with overrides := Overrides.normalise values }.noteRecords
    (Overrides.replaceRecords values)

/-- The engine with the records of overrides that are refused. -/
def refuseOverrides (engine : Engine) (values : Dict Value) : Engine :=
  engine.noteRecords (Overrides.refusedRecords engine.room values)

/-- Replaces the overrides and sweeps, unless one of the values has no text. -/
def setOverrides (values : Dict Value) : Act Unit := do
  match Overrides.fault? (← Operation.get).room values with
  | some fault =>
    Operation.modify (·.refuseOverrides values)
    Operation.fail fault
  | none =>
    Operation.modify (·.replaceOverrides values)
    sweep .overrides

/-- The engine when it has stopped observing the viewport. -/
def stopObserving (engine : Engine) : Engine :=
  if engine.isObserving then
    let engine := { engine with isObserving := false }
    if engine.provider.unobserveFails then
      engine.note (.record
        ⟨.error, .engine, "Failed to stop observing the preview viewport", some (.raised "")⟩)
    else { engine with viewport := engine.viewport.unobserve () }
  else engine

/-- The engine without its pending frame. -/
def cancelFrame (engine : Engine) : Engine := { engine with pacer := engine.pacer.cancel }

/-- The engine without its registered handles, which are detached. -/
def detachAll (engine : Engine) : Engine :=
  let numbers := engine.registry.entries.map (·.2)
  { engine with
    handles := engine.handles.mapIdx fun number handle =>
      if number ∈ numbers then { handle with isDetached := true } else handle
    registry := {}
    parsed := {}
    followUpRequested := false }

/-- The engine marked as destroyed, which is recorded the first time. -/
def markDestroyed (engine : Engine) : Engine :=
  if engine.isDestroyed then engine
  else
    { engine with isDestroyed := true }.note
      (.record ⟨.debug, .engine, "Preview matchMedia destroyed", none⟩)

/-- Stops observing the viewport and drops every query. -/
def destroy : Act Unit := Operation.modify (·.stopObserving.cancelFrame.detachAll.markDestroyed)

/-- The requests to an engine, to its handles and bindings, and to the host's own side. -/
inductive Request where
  | matchMedia (query : Value)
  | addListener (handle : Nat) (listener : Option Listener)
  | removeListener (handle : Nat) (listener : Option Listener)
  | addEventListener (handle : Nat) (type : Text) (listener : Option Listener)
  | removeEventListener (handle : Nat) (type : Text) (listener : Option Listener)
  | setOnChange (handle : Nat) (listener : Option Listener)
  | bind (query : Value) (receiver : Text)
  | unbind (binding : Nat)
  | setSize (width height : Extent)
  | flush (limit : Option Int)
  | setOverrides (values : Dict Value)
  | destroy
  | setHost (host : HostSource)
  | failSize (fails : Bool)
  | failUnobserve (fails : Bool)
  | setRawSize (value : Option Value)
  | setRoom (room : Nat)

/-- The answer to a request: nothing, or the number of a handle or binding, or a count. -/
inductive Answer where
  | nothing
  | handle (number : Nat)
  | binding (number : Nat)
  | count (number : Nat)
  deriving DecidableEq, Repr

/-- The change that a request makes at once, if it calls no one. -/
def Request.change? : Request → Option (Engine → Engine)
  | .addListener number listener => some (·.listen number listener)
  | .removeListener number listener => some (·.unlisten number listener)
  | .addEventListener number type listener => some (·.listenTo number type listener)
  | .removeEventListener number type listener => some (·.unlistenTo number type listener)
  | .setOnChange number listener => some (·.setOnChange number listener)
  | .unbind binding => some (·.unbind binding)
  | .setSize width height => some (·.resize width height)
  | .destroy => some (·.stopObserving.cancelFrame.detachAll.markDestroyed)
  | .setHost host => some ({ · with host })
  | .failSize fails => some fun engine =>
    { engine with provider := { engine.provider with sizeFails := fails } }
  | .failUnobserve fails => some fun engine =>
    { engine with provider := { engine.provider with unobserveFails := fails } }
  | .setRawSize value => some fun engine =>
    { engine with provider := { engine.provider with rawSize := value } }
  | .setRoom room => some ({ · with room })
  | .matchMedia _ | .bind _ _ | .flush _ | .setOverrides _ => none

/-- Serves a request. -/
def perform (request : Request) : Act Answer :=
  match request with
  | .matchMedia query => Answer.handle <$> matchMedia query
  | .bind query receiver => Answer.binding <$> bind query receiver
  | .flush limit => Answer.count <$> flush limit
  | .setOverrides values => (fun _ => .nothing) <$> setOverrides values
  | _ => (fun _ => .nothing) <$> Operation.modify (request.change?.getD id)

end Breakpoint.Engine
