import Breakpoint.Engine.State
import Breakpoint.Query.Evaluate

/-!
# Sweeps

A sweep brings the answers of all handles up to date and tells their listeners. It takes one
size and one set of preferences per pass. A listener may ask for another sweep: then the sweep
under way takes a further pass instead, up to the limit of the settings.

A listener that fails is recorded, and the others are called all the same.
-/

namespace Breakpoint.Engine

/-- An operation on an engine. -/
abbrev Act := Operation Engine Callback (Except Fault Unit)

/-- Writes a record. -/
def log (level : Level) (source : Source) (message : Text) (fault : Option Fault) : Act Unit :=
  Operation.modify (·.note (.record ⟨level, source, message, fault⟩))

/-- What the host's viewport gives for its size: two members, each a number or not. -/
def providedSize (engine : Engine) :
    Except Fault (Except Fault Extent × Except Fault Extent) :=
  if engine.provider.sizeFails then .error (.raised "")
  else
    match engine.provider.rawSize with
    | some value => value.toPair.map fun (width, height) => (width.toExtent, height.toExtent)
    | none => .ok (.ok engine.viewport.width, .ok engine.viewport.height)

/-- The size of the viewport. A viewport without a size of two members is recorded and has
none; members that are no numbers are a fault. -/
def readSize : Act (Option (Extent × Extent)) := do
  let engine ← Operation.get
  match engine.providedSize with
  | .error fault =>
    log .error .engine "Failed to read the preview viewport size" (some fault)
    return none
  | .ok (width, height) =>
    return some (← Operation.lift width, ← Operation.lift height)

/-- The preferences of the host, or the defaults if it fails to tell them. -/
def preferences (engine : Engine) : Preferences :=
  match engine.host with
  | .known preferences => preferences
  | .failing => {}

/-- Reads the preferences of the host. That it fails to tell them is recorded. -/
def readHost : Act Preferences := do
  let engine ← Operation.get
  match engine.host with
  | .known _ => pure ()
  | .failing =>
    log .error .engine "Failed to read host preferences; using defaults" (some (.raised ""))
  return engine.preferences

/-- The preferences are those of the engine, and nothing happens but that a failure is recorded. -/
theorem readHost_cases (engine : Engine) :
    ∃ after, readHost engine = .done (.ok engine.preferences) after ∧
      (after = engine ∨
        ∃ record : LogRecord, record.level = .error ∧ after = engine.note (.record record)) := by
  cases hhost : engine.host with
  | known preferences =>
    refine ⟨engine, ?_, .inl rfl⟩
    simp [readHost, hhost]
  | failing =>
    refine ⟨engine.note (.record ⟨.error, .engine,
      "Failed to read host preferences; using defaults", some (.raised "")⟩), ?_, .inr ⟨_, rfl, rfl⟩⟩
    simp [readHost, log, hhost]

/-- What queries are evaluated against at a size, under the overrides of the engine. -/
def surroundings (engine : Engine) (size : Extent × Extent) (host : Preferences) :
    Surroundings :=
  ⟨size.1, size.2, Overrides.toValues engine.overrides, host⟩

/-- The answer of a query at a size. -/
def answer (query : Query) (size : Extent × Extent) (host : Preferences) : Act Bool := do
  let engine ← Operation.get
  Operation.lift (query.evaluate (engine.surroundings size host))

/-- The callback that tells a listener of an event. -/
def callbackFor (number : Nat) (event : ChangeEvent) : Listener → Callback
  | .named name => .notify number name event
  | .bound binding receiver => .deliver binding receiver event.isMatch

/-- Notes that a listener is told of an event. -/
def noteTold (engine : Engine) (number : Nat) (event : ChangeEvent) (listener : Listener) :
    Engine :=
  (engine.note (.told number event listener)).note (.called (callbackFor number event listener))

/-- Tells one listener of an event; `role` says as what it was registered. -/
def tell (role : Text) (number : Nat) (event : ChangeEvent) (listener : Listener) :
    Act Unit := do
  Operation.modify (·.noteTold number event listener)
  match ← Operation.call (callbackFor number event listener) with
  | .ok _ => pure ()
  | .error fault =>
    log .error .engine ("Error in media query " ++ role ++ " for " ++ Text.quoted event.media)
      (some fault)

/-- Tells the listeners that are registered with a handle now. -/
def tellListeners (number : Nat) (event : ChangeEvent) : Act Unit := do
  let engine ← Operation.get
  match engine.handle? number with
  | some handle => Operation.forAll (tell "listener" number event) handle.listeners
  | none => pure ()

/-- Tells the listeners of a handle of an event, the one in its own slot first. The others are
those that are registered when that one has ended. -/
def dispatch (number : Nat) (event : ChangeEvent) : Act Unit := do
  let engine ← Operation.get
  match (engine.handle? number).bind (·.onChange) with
  | some listener => tell "onchange" number event listener
  | none => pure ()
  tellListeners number event

/-- Brings the answer of one handle up to date and tells its listeners if it changes. -/
def updateHandle (size : Extent × Extent) (host : Preferences) (number : Nat) : Act Unit := do
  let engine ← Operation.get
  match engine.handle? number with
  | none => pure ()
  | some handle =>
    match handle.query with
    | none => pure ()
    | some query =>
      if handle.isDetached then pure ()
      else
        let isMatch ← answer query size host
        if isMatch = handle.isMatch then pure ()
        else
          Operation.modify (·.changeAnswer number isMatch)
          dispatch number ⟨isMatch, handle.media⟩
          Operation.modify (·.note (.dispatchEnded number))

/-- One pass over the handles that are registered when it begins, in order of registration. -/
def pass : Act Unit := do
  Operation.modify (·.beginPass)
  match ← readSize with
  | none => pure ()
  | some size =>
    let host ← readHost
    let engine ← Operation.get
    Operation.forAll (updateHandle size host) (engine.registry.entries.map (·.2))

/-- The record of listeners that keep asking for further passes. -/
def followUpWarning (reason : SweepReason) (passes : Nat) : LogRecord :=
  ⟨.warning, .engine, "Media query sweep (" ++ reason.text
    ++ ") still requesting follow-ups after " ++ toString passes ++ " passes; stopping", none⟩

/-- Gives up on listeners that keep asking for further passes. -/
def giveUp (reason : SweepReason) (passes : Nat) : Act Unit := do
  Operation.modify (·.note (.record (followUpWarning reason passes)))
  Operation.modify (·.dropFollowUp)

/-- A pass, and as many further ones as are asked for and still allowed; `passes` were made
before. -/
def passes (reason : SweepReason) : (allowed passes : Nat) → Act Unit
  | 0, passes => do
    pass
    if (← Operation.get).followUpRequested then giveUp reason (passes + 1)
  | allowed + 1, count => do
    pass
    if (← Operation.get).followUpRequested then passes reason allowed (count + 1)

/-- The passes of a sweep. A limit that cannot be compared is a fault once it matters. -/
def allPasses (reason : SweepReason) : FollowUpLimit → Act Unit
  | .atMost limit => passes reason limit.toNat 0
  | .incomparable => do
    pass
    if (← Operation.get).followUpRequested then Operation.fail .wrongKind

/-- Sweeps the handles, or asks the sweep under way for a further pass. -/
def sweep (reason : SweepReason) : Act Unit := do
  let engine ← Operation.get
  if engine.isSweeping then Operation.modify (·.requestFollowUp)
  else
    Operation.modify (·.beginSweep reason)
    (allPasses reason engine.followUps).ensuring (·.endSweep)

end Breakpoint.Engine
