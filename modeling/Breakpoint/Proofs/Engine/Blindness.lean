import Breakpoint.Proofs.Engine.Isolation

/-!
# The journal is written and never read

Whatever an engine does, it does the same on top of any other journal. Two sessions whose engines
differ in older entries of their journals therefore stay together: the same moves of the host lead
to the same events, and to engines that still differ in these entries only.
-/

namespace Breakpoint

/-- The dialogue from another state. What follows a call is the same, from the same states. -/
def Dialogue.moved {σ κ ρ α : Type} (move : σ → σ) : Dialogue σ κ ρ α → Dialogue σ κ ρ α
  | .done outcome state => .done outcome (move state)
  | .call callback state resume => .call callback (move state) resume

namespace Engine

open Operation

/-- The engine with its journal on top of older entries. -/
def atop (engine : Engine) (base : Journal) : Engine :=
  { engine with journal := engine.journal ++ base }

/-- The operation does not read the journal: on top of older entries it does the same, and leaves
these as they are. -/
def IsBlind {α : Type} (operation : Act α) : Prop :=
  ∀ engine base, operation (engine.atop base) = (operation engine).moved (·.atop base)

/-- The change does not read the journal. -/
def Commutes (change : Engine → Engine) : Prop :=
  ∀ engine base, change (engine.atop base) = (change engine).atop base

/-! ## Rules -/

section Rules

variable {α β : Type}

/-- Nothing is done, with any journal. -/
theorem isBlind_pure (result : α) : IsBlind (pure result) := fun _ _ => rfl

/-- What is taken from elsewhere does not depend on the journal. -/
theorem isBlind_lift (outcome : Except Fault α) : IsBlind (Operation.lift outcome) := fun _ _ => rfl

/-- A callback is called with any journal. -/
theorem isBlind_call (callback : Callback) : IsBlind (Operation.call callback) := fun _ _ => rfl

/-- A change that does not read the journal may be made. -/
theorem isBlind_modify {change : Engine → Engine} (h : Commutes change) :
    IsBlind (Operation.modify change) :=
  fun engine base => congrArg (Dialogue.done (.ok ())) (h engine base)

/-- An operation after another one reads the journal only if one of the two does. -/
theorem IsBlind.bind {first : Act α} {next : α → Act β} (hfirst : IsBlind first)
    (hnext : ∀ result, IsBlind (next result)) : IsBlind (first >>= next) := by
  intro engine base
  show (first (engine.atop base)).andThen _ = Dialogue.moved _ ((first engine).andThen _)
  rw [hfirst]
  cases first engine with
  | call callback state resume => rfl
  | done outcome state =>
    cases outcome with
    | error fault => rfl
    | ok result => exact hnext result state base

/-- What is read of the engine is not its journal. -/
theorem isBlind_read {next : Engine → Act α}
    (hsame : ∀ engine base, next (engine.atop base) = next engine)
    (hnext : ∀ engine, IsBlind (next engine)) : IsBlind (Operation.get >>= next) := by
  intro engine base
  rw [get_bind, get_bind, hsame]
  exact hnext engine engine base

/-- The result of an operation is taken for another one. -/
theorem IsBlind.map {operation : Act α} (h : IsBlind operation) (f : α → β) :
    IsBlind (f <$> operation) := by
  rw [map_eq_pure_bind]
  exact h.bind fun _ => isBlind_pure _

/-- A fault that is caught is the same with any journal. -/
theorem IsBlind.attempt {operation : Act α} (h : IsBlind operation) : IsBlind operation.attempt := by
  intro engine base
  show (operation (engine.atop base)).andThen _ = Dialogue.moved _ ((operation engine).andThen _)
  rw [h]
  cases operation engine <;> rfl

/-- What is done for sure at the end must not read the journal either. -/
theorem IsBlind.ensuring {operation : Act α} {change : Engine → Engine} (h : IsBlind operation)
    (hchange : Commutes change) : IsBlind (operation.ensuring change) := by
  intro engine base
  show (operation (engine.atop base)).andThen _ = Dialogue.moved _ ((operation engine).andThen _)
  rw [h]
  cases operation engine with
  | call callback state resume => rfl
  | done outcome state => exact congrArg (Dialogue.done outcome) (hchange state base)

/-- An operation is repeated for each of some members. -/
theorem isBlind_forAll {run : α → Act Unit} (h : ∀ member, IsBlind (run member)) (members : List α) :
    IsBlind (forAll run members) := by
  induction members with
  | nil => exact isBlind_pure ()
  | cons first rest ih => exact (h first).bind fun _ => ih

end Rules

/-! ## Changes -/

/-- An entry is written on top of the others. -/
theorem commutes_note (entry : Entry) : Commutes (·.note entry) := fun _ _ => rfl

/-- Records are written on top of the other entries. -/
theorem commutes_noteRecords (records : List LogRecord) : Commutes (·.noteRecords records) := by
  intro engine base
  simp only [noteRecords, atop, List.append_assoc]

/-- A record is written on top of the other entries. -/
theorem isBlind_log (level : Level) (source : Source) (message : Text) (fault : Option Fault) :
    IsBlind (log level source message fault) :=
  isBlind_modify (commutes_note _)

/-- A listener is added to a handle with any journal. -/
theorem commutes_listen (number : Nat) (listener : Option Listener) :
    Commutes (·.listen number listener) := by
  intro engine base
  cases listener <;> rfl

/-- A listener is removed from a handle with any journal. -/
theorem commutes_unlisten (number : Nat) (listener : Option Listener) :
    Commutes (·.unlisten number listener) := by
  intro engine base
  cases listener <;> rfl

/-- A listener for a type of events is added with any journal. -/
theorem commutes_listenTo (number : Nat) (type : Text) (listener : Option Listener) :
    Commutes (·.listenTo number type listener) := by
  intro engine base
  by_cases htype : type = changeType
  · simp only [listenTo, if_pos htype]
    exact commutes_listen number listener engine base
  · simp only [listenTo, if_neg htype]

/-- A listener for a type of events is removed with any journal. -/
theorem commutes_unlistenTo (number : Nat) (type : Text) (listener : Option Listener) :
    Commutes (·.unlistenTo number type listener) := by
  intro engine base
  by_cases htype : type = changeType
  · simp only [unlistenTo, if_pos htype]
    exact commutes_unlisten number listener engine base
  · simp only [unlistenTo, if_neg htype]

/-- A binding ends with any journal. -/
theorem commutes_unbind (binding : Nat) : Commutes (·.unbind binding) := by
  intro engine base
  have hsame : (engine.atop base).bindings = engine.bindings := rfl
  simp only [unbind, hsame]
  split
  · exact commutes_unlistenTo _ _ _ engine base
  · rfl

/-- Observers are told of a new size with any journal. -/
theorem commutes_resize (width height : Extent) : Commutes (·.resize width height) := by
  have htold : ∀ (observers : List Unit) (told : Engine) (base : Journal),
      observers.foldl (fun engine _ => engine.sizeChanged) (told.atop base) =
        (observers.foldl (fun engine _ => engine.sizeChanged) told).atop base := by
    intro observers
    induction observers with
    | nil => exact fun told base => rfl
    | cons observer observers ih =>
      intro told base
      have hchanged : (told.atop base).sizeChanged = told.sizeChanged.atop base := by
        cases hobserving : told.isObserving <;> simp [sizeChanged, atop, hobserving]
      rw [List.foldl_cons, List.foldl_cons, hchanged]
      exact ih told.sizeChanged base
  intro engine base
  exact htold _ { engine with viewport := engine.viewport.resize width height } base

/-- Whether the end of an engine is recorded depends on a mark of the engine alone. -/
theorem commutes_tearDown : Commutes tearDown := by
  intro engine base
  have hstop : (engine.atop base).stopObserving = engine.stopObserving.atop base := by
    cases hobserving : engine.isObserving <;> cases hfails : engine.provider.unobserveFails <;>
      simp [stopObserving, atop, hobserving, hfails, note]
  have hmark : ∀ marked : Engine, (marked.atop base).markDestroyed = marked.markDestroyed.atop base := by
    intro marked
    cases hdestroyed : marked.isDestroyed <;> simp [markDestroyed, atop, hdestroyed, note]
  simp only [tearDown, hstop]
  exact hmark engine.stopObserving.cancelFrame.detachAll

/-- No change that is made at once reads the journal. -/
theorem commutes_change {request : Request} {change : Engine → Engine}
    (h : request.change? = some change) : Commutes change := by
  cases request with
  | addListener number listener => cases h; exact commutes_listen number listener
  | removeListener number listener => cases h; exact commutes_unlisten number listener
  | addEventListener number type listener => cases h; exact commutes_listenTo number type listener
  | removeEventListener number type listener => cases h; exact commutes_unlistenTo number type listener
  | unbind binding => cases h; exact commutes_unbind binding
  | setSize width height => cases h; exact commutes_resize width height
  | destroy => cases h; exact commutes_tearDown
  | setOnChange _ _ | setHost _ | failSize _ | failUnobserve _ | setRawSize _ | setRoom _ =>
    cases h
    exact fun _ _ => rfl
  | matchMedia _ | bind _ _ | flush _ | setOverrides _ => cases h

/-! ## Sweeps -/

/-- What a sweep has still to do does not depend on the journal. -/
theorem Stage.isBlind_program (stage : Stage) : IsBlind stage.program := by
  intro engine base
  obtain ⟨stop, last, hreaches, hstops⟩ := stage.halts engine
  obtain ⟨added, hadded, hanew⟩ := hreaches.with_journal
  have hatop : stage.Reaches (engine.atop base) stop (last.atop base) := by
    have hsame : last.atop base = { last with journal := added ++ (engine.journal ++ base) } := by
      rw [atop, hadded, List.append_assoc]
    rw [hsame]
    exact hanew (engine.journal ++ base)
  rw [hreaches.program_eq, hatop.program_eq]
  cases hstops with
  | ended outcome => rfl
  | calls hcalls =>
    have hcallsAtop := hcalls.with_journal (last.journal ++ base)
    rw [hcalls.program_eq]
    exact hcallsAtop.program_eq

/-- A sweep is put off or begun with any journal. -/
theorem isBlind_sweep (reason : SweepReason) : IsBlind (sweep reason) := by
  refine isBlind_read (fun _ _ => rfl) fun engine => ?_
  cases engine.isSweeping with
  | true => exact isBlind_modify fun _ _ => rfl
  | false =>
    refine (isBlind_modify fun _ _ => rfl).bind fun _ => ?_
    rw [allPasses_eq_program]
    exact (Stage.isBlind_program _).ensuring fun _ _ => rfl

/-- What waits for a reply does not read the journal. -/
theorem Suspension.isBlind_resume (suspension : Suspension) (reply : Except Fault Unit) :
    IsBlind (suspension.resume reply) := by
  intro engine base
  cases suspension with
  | telling turn answer =>
    have hhear : turn.hear reply (engine.atop base) = (turn.hear reply engine).atop base := by
      cases reply <;> rfl
    have hprogram : IsBlind (turn.continued.operation answer) :=
      ((Stage.isBlind_program _).ensuring fun _ _ => rfl).map _
    simp only [Suspension.resume, hhear]
    exact hprogram _ base
  | joining binding receiver number => cases reply <;> rfl
  | refused binding => rfl

/-! ## Requests -/

/-- A failure to read the size is recorded without a look at the journal. -/
theorem isBlind_readSize : IsBlind readSize := by
  refine isBlind_read (fun _ _ => rfl) fun engine => ?_
  cases engine.providedSize with
  | error fault => exact (isBlind_log _ _ _ _).bind fun _ => isBlind_pure _
  | ok size =>
    exact (isBlind_lift _).bind fun _ => (isBlind_lift _).bind fun _ => isBlind_pure _

/-- A failure to read the preferences is recorded without a look at the journal. -/
theorem isBlind_readHost : IsBlind readHost := by
  refine isBlind_read (fun _ _ => rfl) fun engine => ?_
  cases engine.host with
  | known preferences => exact isBlind_pure _
  | failing => exact (isBlind_log _ _ _ _).bind fun _ => isBlind_pure _

/-- What a query answers does not depend on the journal. -/
theorem isBlind_answer (query : Query) (size : Extent × Extent) (host : Preferences) :
    IsBlind (answer query size host) :=
  isBlind_read (fun _ _ => rfl) fun _ => isBlind_lift _

/-- Which trees are remembered does not depend on the journal. -/
theorem isBlind_parseCached (media : Text) : IsBlind (parseCached media) := by
  refine isBlind_read (fun _ _ => rfl) fun engine => ?_
  cases engine.parsed.get? media with
  | some tree => exact isBlind_pure tree
  | none =>
    refine (isBlind_lift _).bind fun found => ?_
    refine (isBlind_modify fun engine base => ?_).bind fun _ => isBlind_pure _
    exact commutes_noteRecords _ { engine with parsed := engine.parsed.insert media _ } base

/-- The first answer of a handle does not depend on the journal. -/
theorem isBlind_firstAnswer (tree : Option Query) : IsBlind (firstAnswer tree) := by
  cases tree with
  | none => exact isBlind_pure false
  | some query =>
    refine isBlind_readSize.bind fun size => ?_
    cases size with
    | none => exact isBlind_pure false
    | some size => exact isBlind_readHost.bind fun host => isBlind_answer query size host

/-- Which handles are registered does not depend on the journal. -/
theorem isBlind_matchText (media : Text) : IsBlind (matchText media) := by
  refine isBlind_read (fun _ _ => rfl) fun engine => ?_
  cases engine.registry.get? media with
  | some number => exact isBlind_pure number
  | none =>
    refine (isBlind_parseCached _).bind fun tree => (isBlind_firstAnswer tree).bind fun isMatch => ?_
    refine isBlind_read (fun _ _ => rfl) fun engine => ?_
    exact (isBlind_modify fun _ _ => rfl).bind fun _ => isBlind_pure _

/-- Whether a query has a text does not depend on the journal. -/
theorem isBlind_matchMedia (query : Value) : IsBlind (matchMedia query) :=
  isBlind_read (fun _ _ => rfl) fun _ => (isBlind_lift _).bind fun text => isBlind_matchText text

/-- A value is delivered with any journal. -/
theorem isBlind_deliver (binding : Nat) (receiver : Text) (isMatch : Bool) :
    IsBlind (deliver binding receiver isMatch) :=
  (isBlind_modify (commutes_note _)).bind fun _ => (isBlind_call _).bind fun _ => isBlind_lift _

/-- Whether a refusal can be recorded depends on the query and the room alone. -/
theorem commutes_recordRefusal (query : Value) (fault : Fault) :
    Commutes (·.recordRefusal query fault) := by
  intro engine base
  have hroom : (engine.atop base).room = engine.room := rfl
  simp only [recordRefusal, hroom]
  cases query.textFault? engine.room <;> rfl

/-- A binding delivers the same value with any journal. -/
theorem isBlind_bind (query : Value) (receiver : Text) : IsBlind (bind query receiver) := by
  refine isBlind_read (fun _ _ => rfl) fun engine => ?_
  refine (isBlind_modify fun _ _ => rfl).bind fun _ => ?_
  refine (isBlind_matchMedia query).attempt.bind fun outcome => ?_
  cases outcome with
  | error fault =>
    refine (isBlind_modify (commutes_recordRefusal query fault)).bind fun _ => ?_
    exact (isBlind_deliver _ _ _).bind fun _ => isBlind_pure _
  | ok number =>
    refine isBlind_read (fun _ _ => rfl) fun engine => (isBlind_deliver _ _ _).bind fun _ => ?_
    refine (isBlind_modify (commutes_listenTo _ _ _)).bind fun _ => ?_
    exact (isBlind_modify fun _ _ => rfl).bind fun _ => isBlind_pure _

/-- Whether a frame is pending does not depend on the journal. -/
theorem isBlind_runFrame : IsBlind runFrame := by
  refine isBlind_read (fun _ _ => rfl) fun engine => ?_
  cases engine.pacer.isPending with
  | false => exact isBlind_pure ()
  | true =>
    refine (isBlind_modify fun engine base => ?_).bind fun _ => isBlind_sweep .resize
    exact commutes_noteRecords _ { engine with pacer := engine.pacer.start } base

/-- Which frames are due does not depend on the journal. -/
theorem isBlind_flush (limit : Option Int) : IsBlind (flush limit) := by
  refine isBlind_read (fun _ _ => rfl) fun engine => ?_
  refine (isBlind_modify fun _ _ => rfl).bind fun _ => ?_
  exact (isBlind_forAll (fun _ => isBlind_runFrame) _).bind fun _ => isBlind_pure _

/-- Whether overrides are refused does not depend on the journal. -/
theorem isBlind_setOverrides (values : Dict Value) : IsBlind (setOverrides values) := by
  refine isBlind_read (fun _ _ => rfl) fun engine => ?_
  cases Overrides.fault? engine.room values with
  | some fault =>
    refine (isBlind_modify fun engine base => ?_).bind fun _ => isBlind_lift _
    exact commutes_noteRecords _ engine base
  | none =>
    refine (isBlind_modify fun engine base => ?_).bind fun _ => isBlind_sweep .overrides
    exact commutes_noteRecords _ { engine with overrides := Overrides.normalise values } base

/-- No request reads the journal. -/
theorem isBlind_perform (request : Request) : IsBlind (perform request) := by
  cases hchange : request.change? with
  | some change =>
    rw [perform_of_change hchange]
    exact (isBlind_modify (commutes_change hchange)).map _
  | none =>
    cases request with
    | matchMedia query => exact (isBlind_matchMedia query).map _
    | bind query receiver => exact (isBlind_bind query receiver).map _
    | flush limit => exact (isBlind_flush limit).map _
    | setOverrides values => exact (isBlind_setOverrides values).map _
    | _ => cases hchange

/-! ## Sessions side by side -/

/-- Two sessions that differ in older entries of their journals and in older events only. -/
structure Alongside (base other : Journal) (past former : List Event)
    (first second : EngineSession) : Prop where
  waiting : second.waiting = first.waiting
  state : ∃ engine : Engine, first.state = engine.atop base ∧ second.state = engine.atop other
  history : ∃ since, first.history = since ++ past ∧ second.history = since ++ former

namespace Alongside

variable {base other : Journal} {past former : List Event} {first second : EngineSession}

/-- The same event is added to both. -/
theorem note (h : Alongside base other past former first second) (event : Event) :
    Alongside base other past former (first.note event) (second.note event) := by
  obtain ⟨since, hfirst, hsecond⟩ := h.history
  exact ⟨h.waiting, h.state, event :: since, congrArg (event :: ·) hfirst, congrArg (event :: ·) hsecond⟩

/-- The same dialogue leads both sessions on. -/
theorem of_advance (hwaiting : second.waiting = first.waiting)
    (hhistory : ∃ since, first.history = since ++ past ∧ second.history = since ++ former)
    (dialogue : Dialogue Engine Callback (Except Fault Unit) Answer) :
    Alongside base other past former (first.advance (dialogue.moved (·.atop base)))
      (second.advance (dialogue.moved (·.atop other))) := by
  cases dialogue with
  | done outcome state =>
    have hended : Alongside base other past former { first with state := state.atop base }
        { second with state := state.atop other } := ⟨hwaiting, ⟨state, rfl, rfl⟩, hhistory⟩
    exact hended.note (.ended outcome)
  | call callback state resume =>
    have hcalls : Alongside base other past former
        { first with state := state.atop base, waiting := resume :: first.waiting }
        { second with state := state.atop other, waiting := resume :: second.waiting } :=
      ⟨congrArg (resume :: ·) hwaiting, ⟨state, rfl, rfl⟩, hhistory⟩
    exact hcalls.note (.called callback)

/-- The same move keeps two sessions together. -/
theorem step (h : Alongside base other past former first second) {waiting : List Suspension}
    (hwaits : first.waiting = waiting.map Suspension.resume) (move : Move Request (Except Fault Unit)) :
    Alongside base other past former (first.step perform move) (second.step perform move) := by
  obtain ⟨engine, hfirst, hsecond⟩ := h.state
  cases move with
  | begin request =>
    rw [Session.step, Session.step, hfirst, hsecond, isBlind_perform, isBlind_perform]
    have hbegun := h.note (.begun request)
    exact of_advance hbegun.waiting hbegun.history (perform request engine)
  | answer reply =>
    cases waiting with
    | nil =>
      have hnone : first.waiting = [] := hwaits
      rw [Session.step, Session.step, h.waiting, hnone]
      exact h
    | cons suspension rest =>
      have hsome : first.waiting = suspension.resume :: rest.map Suspension.resume := hwaits
      have hleft : Alongside base other past former
          { first with waiting := rest.map Suspension.resume }
          { second with waiting := rest.map Suspension.resume } := ⟨rfl, h.state, h.history⟩
      have hanswered := hleft.note (.answered reply)
      rw [Session.step, Session.step, h.waiting, hsome]
      simp only [hfirst, hsecond, suspension.isBlind_resume reply engine]
      exact of_advance hanswered.waiting hanswered.history (suspension.resume reply engine)

/-- The same moves keep two sessions together. -/
theorem run (h : Alongside base other past former first second) {waiting : List Suspension}
    (hstands : Stands first waiting) (moves : List (Move Request (Except Fault Unit))) :
    Alongside base other past former (first.run perform moves) (second.run perform moves) := by
  induction moves generalizing first second waiting with
  | nil => exact h
  | cons move moves ih =>
    obtain ⟨now, hnow, -⟩ := hstands.run (fun _ _ => True) (fun _ _ _ => id) trivial [move]
    exact ih (h.step hstands.waits move) hnow

end Alongside

end Engine

end Breakpoint
