import Breakpoint.Proofs.Engine.Unheard

/-!
# Change events are faithful

The answer of a handle is written by a sweep only, and each write opens a dispatch of the new
answer. While the dispatch is open, whatever the listeners do reaches no further than to ask for
another pass. Hence the events of a handle alternate, a listener is told of the answer that the
handle has at that moment, and no two dispatches overlap.

The contract below says what a listener may rely on, and may do itself: outside a sweep any
operation, inside of one only those that leave the answers and the open dispatch alone.
-/

namespace Breakpoint.Engine

open Journal

/-- The present answer of a handle, if it was made. -/
def present (engine : Engine) (number : Nat) : Option Bool :=
  (engine.handle? number).map (·.isMatch)

/-- The journal is orderly and tells the truth of every handle. -/
structure Faithful (engine : Engine) : Prop where
  orderly : IsOrderly engine.journal
  tells : ∀ number, Tells number engine.journal (engine.present number)

/-- The answers stay where the events do. -/
theorem Unheard.present {before after : Engine} (h : Unheard before after) (number : Nat) :
    after.present number = before.present number := by
  have hevents := congrArg (Option.map ChangeEvent.isMatch) (h.events number)
  rw [Option.map_map, Option.map_map] at hevents
  exact hevents

/-- The new handle has its answer, and the others keep theirs. -/
theorem present_register (engine : Engine) (handle : Handle) (number : Nat) :
    (engine.register handle).present number =
      if number = engine.handles.length then some handle.isMatch else engine.present number := by
  rw [present, handle?_register]
  split <;> rfl

/-- Only the handle whose answer changes has another one. -/
theorem present_changeAnswer (engine : Engine) (changed number : Nat) (isMatch : Bool)
    {handle : Handle} (hhandle : engine.handle? changed = some handle) :
    (engine.changeAnswer changed isMatch).present number =
      if changed = number then some isMatch else engine.present number := by
  rw [present, changeAnswer, handle?_note, handle?_changeHandle]
  split
  · next hsame =>
    subst hsame
    rw [hhandle]
    rfl
  · rfl

namespace Faithful

variable {engine : Engine}

/-- A new engine has nothing to tell of. -/
theorem create (options : EngineOptions) : (create options).Faithful :=
  ⟨(goesOn_create options).isOrderly trivial, fun number => (goesOn_create options).answers number⟩

/-- A change that no listener hears of keeps the journal true. -/
theorem unheard {after : Engine} (h : engine.Faithful) (hunheard : Unheard engine after) :
    after.Faithful := by
  refine ⟨hunheard.journal.isOrderly h.orderly, ?_⟩
  intro number
  rw [hunheard.present]
  exact hunheard.journal.tells (h.tells number)

/-- An entry in its place that is about no answer keeps the journal true. -/
theorem note (h : engine.Faithful) {entry : Entry} (hcontinues : Continues entry engine.journal)
    (hmade : ∀ number isMatch, entry ≠ .handleMade number isMatch)
    (hchange : ∀ number isMatch, entry ≠ .dispatchBegan number isMatch) :
    (engine.note entry).Faithful :=
  ⟨⟨hcontinues, h.orderly⟩, fun number => (h.tells number).cons (hmade number) (hchange number)⟩

/-- A handle that is registered was made with its answer. -/
theorem register (h : engine.Faithful) (handle : Handle) : (engine.register handle).Faithful := by
  refine ⟨⟨trivial, h.orderly⟩, ?_⟩
  intro number
  rw [present_register]
  split
  · next hlast =>
    subst hlast
    have hunmade : engine.present engine.handles.length = none := by
      rw [present, handle?, List.getElem?_eq_none (Nat.le_refl _), Option.map_none]
    have htells := h.tells engine.handles.length
    rw [hunmade] at htells
    exact htells.make handle.isMatch
  · next hother =>
    refine (h.tells number).cons ?_ (by simp)
    intro isMatch hsame
    cases hsame
    exact hother rfl

/-- Outside of every dispatch, a change of an answer opens the dispatch of it. -/
theorem changeAnswer (h : engine.Faithful) (hclosed : openDispatch engine.journal = none)
    {number : Nat} {handle : Handle} (hhandle : engine.handle? number = some handle)
    {isMatch : Bool} (hchange : isMatch ≠ handle.isMatch) :
    (engine.changeAnswer number isMatch).Faithful := by
  refine ⟨⟨hclosed, h.orderly⟩, ?_⟩
  intro other
  rw [present_changeAnswer engine number other isMatch hhandle]
  split
  · next hsame =>
    subst hsame
    have htells := h.tells number
    rw [present, hhandle] at htells
    exact htells.change hchange
  · next hother =>
    apply (h.tells other).cons (by simp)
    intro answer hsame
    cases hsame
    exact hother rfl

end Faithful

/-- The callback tells a listener of an event, and the event is that of the present answer. -/
def IsTold (engine : Engine) (callback : Callback) : Prop :=
  ∃ number event listener older,
    engine.journal = .called callback :: .told number event listener :: older ∧
      callback = callbackFor number event listener ∧
        (engine.handle? number).map (·.event) = some event

/-- The callback delivers the first value of a binding, which does not listen yet. -/
def IsFirstDelivery (engine : Engine) (callback : Callback) : Prop :=
  ∃ binding receiver isMatch, callback = .deliver binding receiver isMatch ∧
    engine.bindings[binding]? = some { receiver }

/-- What a whole operation leaves as it is: the sweep under way, and inside of one the events
of the handles and the open dispatch. -/
structure Lasts (before after : Engine) : Prop where
  sweeping : after.isSweeping = before.isSweeping
  events : before.isSweeping = true → ∀ number handle, before.handle? number = some handle →
    (after.handle? number).map (·.event) = some handle.event
  dispatch : before.isSweeping = true → openDispatch after.journal = openDispatch before.journal

namespace Lasts

variable {before middle after : Engine}

/-- What lasts through two changes lasts through both. -/
theorem trans (hfirst : Lasts before middle) (hsecond : Lasts middle after) :
    Lasts before after where
  sweeping := hsecond.sweeping.trans hfirst.sweeping
  events hsweeping number handle hhandle := by
    have hmiddle := hfirst.events hsweeping number handle hhandle
    obtain ⟨between, hbetween, hevent⟩ := Option.map_eq_some_iff.1 hmiddle
    rw [← hevent]
    exact hsecond.events (hfirst.sweeping.trans hsweeping) number between hbetween
  dispatch hsweeping :=
    (hsecond.dispatch (hfirst.sweeping.trans hsweeping)).trans (hfirst.dispatch hsweeping)

/-- What no listener hears of lasts. -/
theorem unheard (h : Unheard before after) : Lasts before after where
  sweeping := h.sweeping
  events _ number handle hhandle := by rw [h.events, hhandle, Option.map_some]
  dispatch _ := h.journal.openDispatch

/-- Outside of a sweep any operation will do that leaves no sweep behind. -/
theorem of_not_sweeping (hbefore : before.isSweeping = false) (hafter : after.isSweeping = false) :
    Lasts before after where
  sweeping := hafter.trans hbefore.symm
  events hsweeping := by simp [hbefore] at hsweeping
  dispatch hsweeping := by simp [hbefore] at hsweeping

/-- What is under way lasts when a handle is registered. -/
theorem register (engine : Engine) (handle : Handle) : Lasts engine (engine.register handle) where
  sweeping := rfl
  events _ number other hother := by
    have hlt : number < engine.handles.length := (List.getElem?_eq_some_iff.1 hother).1
    rw [handle?_register, if_neg (Nat.ne_of_lt hlt), hother, Option.map_some]
  dispatch _ := rfl

end Lasts

/-- The contract of an engine with its listeners about change events. -/
def faithfulness : Contract Engine Callback where
  Valid engine := engine.Faithful ∧
    (engine.isSweeping = false → openDispatch engine.journal = none)
  Step := Lasts
  Call callback engine := engine.IsTold callback ∨ engine.IsFirstDelivery callback
  refl _ := Lasts.unheard (Unheard.refl _)
  trans := Lasts.trans

/-- A change that no listener hears of is one that any operation may make. -/
theorem Unheard.faithfulness {before after : Engine} (hunheard : Unheard before after)
    (hvalid : faithfulness.Valid before) :
    faithfulness.Valid after ∧ faithfulness.Step before after := by
  obtain ⟨hfaithful, hclosed⟩ := hvalid
  refine ⟨⟨hfaithful.unheard hunheard, ?_⟩, Lasts.unheard hunheard⟩
  intro hnot
  rw [hunheard.sweeping] at hnot
  rw [hunheard.journal.openDispatch]
  exact hclosed hnot

/-- A sweep is under way in which the dispatch of `current` is open, if any; before it, none
was. -/
structure InSweep (start : Engine) (current : Option Nat) (engine : Engine) : Prop where
  faithful : engine.Faithful
  sweeping : engine.isSweeping = true
  dispatch : openDispatch engine.journal = current
  start : start.isSweeping = false

namespace InSweep

variable {start engine : Engine} {current : Option Nat}

/-- A sweep goes on through what no listener hears of. -/
theorem unheard {after : Engine} (h : InSweep start current engine)
    (hunheard : Unheard engine after) : InSweep start current after where
  faithful := h.faithful.unheard hunheard
  sweeping := hunheard.sweeping.trans h.sweeping
  dispatch := hunheard.journal.openDispatch.trans h.dispatch
  start := h.start

/-- The host may have control inside of a sweep. -/
theorem valid (h : InSweep start current engine) : faithfulness.Valid engine := by
  refine ⟨h.faithful, ?_⟩
  intro hnot
  simp [h.sweeping] at hnot

/-- What listeners do in a dispatch leaves it open, and the event stays that of the handle. -/
theorem listened {number : Nat} {event : ChangeEvent} {after : Engine}
    (h : InSweep start (some number) engine)
    (hevent : (engine.handle? number).map (·.event) = some event)
    (hvalid : faithfulness.Valid after) (hstep : Lasts engine after) :
    InSweep start (some number) after ∧ (after.handle? number).map (·.event) = some event := by
  obtain ⟨handle, hhandle, rfl⟩ := Option.map_eq_some_iff.1 hevent
  refine ⟨⟨hvalid.1, hstep.sweeping.trans h.sweeping, ?_, h.start⟩, ?_⟩
  · exact (hstep.dispatch h.sweeping).trans h.dispatch
  · exact hstep.events h.sweeping number handle hhandle

/-- Noting that a listener is told keeps the dispatch open. -/
theorem noteTold {number : Nat} (h : InSweep start (some number) engine) (event : ChangeEvent)
    (listener : Listener) : InSweep start (some number) (engine.noteTold number event listener) := by
  have htold : InSweep start (some number) (engine.note (.told number event listener)) :=
    ⟨h.faithful.note h.dispatch (by simp) (by simp), h.sweeping, h.dispatch, h.start⟩
  exact htold.unheard (Unheard.note (.called _) trivial _)

/-- Telling a listener of the present answer is a call that the contract allows. -/
theorem tells {number : Nat} {event : ChangeEvent} (h : InSweep start (some number) engine)
    (hevent : (engine.handle? number).map (·.event) = some event) (listener : Listener) :
    Calls faithfulness (callbackFor number event listener)
      (fun after => InSweep start (some number) after ∧
        (after.handle? number).map (·.event) = some event)
      (engine.noteTold number event listener) := by
  have hnoted := h.noteTold event listener
  refine ⟨hnoted.valid, .inl ⟨number, event, listener, engine.journal, rfl, rfl, hevent⟩, ?_⟩
  intro after hvalid hstep
  exact hnoted.listened hevent hvalid hstep

/-- A sweep begins, after an operation has left the answers of `start` alone. -/
theorem begins (hvalid : faithfulness.Valid engine) (hlasts : Lasts start engine)
    (hnot : engine.isSweeping = false) (reason : SweepReason) :
    InSweep start none (engine.beginSweep reason) := by
  obtain ⟨hfaithful, hclosed⟩ := hvalid
  have hbegun : ({ engine with isSweeping := true } : Engine).Faithful :=
    ⟨hfaithful.orderly, hfaithful.tells⟩
  refine ⟨hbegun.note trivial (by simp) (by simp), rfl, hclosed hnot, ?_⟩
  exact hlasts.sweeping.symm.trans hnot

/-- The change of an answer opens the dispatch of the event that tells of it. -/
theorem changeAnswer {number : Nat} {handle : Handle} {isMatch : Bool}
    (h : InSweep start none engine) (hhandle : engine.handle? number = some handle)
    (hchange : isMatch ≠ handle.isMatch) :
    InSweep start (some number) (engine.changeAnswer number isMatch) ∧
      ((engine.changeAnswer number isMatch).handle? number).map (·.event) =
        some ⟨isMatch, handle.media⟩ := by
  refine ⟨⟨h.faithful.changeAnswer h.dispatch hhandle hchange, h.sweeping, rfl, h.start⟩, ?_⟩
  rw [Engine.changeAnswer, handle?_note, handle?_changeHandle, if_pos rfl, hhandle]
  rfl

/-- A dispatch ends. -/
theorem closes {number : Nat} (h : InSweep start (some number) engine) :
    InSweep start none (engine.note (.dispatchEnded number)) :=
  ⟨h.faithful.note h.dispatch (by simp) (by simp), h.sweeping, rfl, h.start⟩

/-- A sweep that ends between two dispatches is an operation that the contract allows. -/
theorem ended (h : InSweep start none engine) :
    faithfulness.Valid engine.endSweep ∧ Lasts start engine.endSweep := by
  have hfaithful : ({ engine with isSweeping := false } : Engine).Faithful :=
    ⟨h.faithful.orderly, h.faithful.tells⟩
  refine ⟨⟨hfaithful.note trivial (by simp) (by simp), fun _ => h.dispatch⟩, ?_⟩
  exact Lasts.of_not_sweeping h.start rfl

end InSweep

/-- Errors are recorded without a listener hearing of it. -/
theorem allowsErrors_of_unheard {assertion : Engine → Prop}
    (h : ∀ {engine after}, assertion engine → Unheard engine after → assertion after) :
    AllowsErrors assertion :=
  fun engine record _ hassertion => h hassertion (Unheard.note (.record record) trivial engine)

/-- The outline of a sweep, begun after an operation has left the answers of `start` alone. No
dispatch is open but between a change of an answer and the end of its dispatch. -/
def dispatchOutline (reason : SweepReason) (start : Engine) :
    SweepOutline faithfulness reason start.followUps
      (fun entry => faithfulness.Valid entry ∧ Lasts start entry ∧
        entry.followUps = start.followUps)
      (fun _ after => faithfulness.Valid after ∧ Lasts start after) where
  between _ := InSweep start none
  visiting _ _ := InSweep start none
  opening _ _ number event engine :=
    InSweep start (some number) engine ∧ (engine.handle? number).map (·.event) = some event
  telling _ _ number event _ engine :=
    InSweep start (some number) engine ∧ (engine.handle? number).map (·.event) = some event
  passed _ := InSweep start none
  finished := InSweep start none
  broken := InSweep start none
  visiting_allowsErrors := allowsErrors_of_unheard InSweep.unheard
  opening_allowsErrors := allowsErrors_of_unheard fun h hunheard =>
    ⟨h.1.unheard hunheard, (hunheard.events _).trans h.2⟩
  telling_allowsErrors := allowsErrors_of_unheard fun h hunheard =>
    ⟨h.1.unheard hunheard, (hunheard.events _).trans h.2⟩
  passed_allowsErrors := allowsErrors_of_unheard InSweep.unheard
  joins := by
    intro engine hentry _
    obtain ⟨hvalid, hlasts, -⟩ := hentry
    obtain ⟨hafter, hstep⟩ := (Unheard.requestFollowUp engine).faithfulness hvalid
    exact ⟨hafter, hlasts.trans hstep⟩
  begins := by
    intro engine hentry hnot
    obtain ⟨hvalid, hlasts, hlimit⟩ := hentry
    exact ⟨hlimit, InSweep.begins hvalid hlasts hnot reason⟩
  unreadable h _ := h.unheard (Unheard.beginPass _)
  misread h _ _ := h.unheard (Unheard.beginPass _)
  reads h _ := h.unheard (Unheard.beginPass _)
  skips h _ := h
  fails h _ _ _ := h
  changes h hhandle _ _ _ hchange := h.changeAnswer hhandle hchange
  opens h _ _ := h.1.tells h.2 _
  lists h := h
  tells h := h.1.tells h.2 _
  closes h := h.1.closes
  ends h := h
  rests h _ := h
  follows h _ _ _ := h
  givesUp h _ _ _ := h.unheard (Unheard.giveUp _ _)
  stalls h _ _ := h
  closesFinished h := h.ended
  closesBroken _ h := h.ended

/-- A sweep keeps the contract after changes that no listener hears of. -/
theorem keeps_sweep_faithfulness (reason : SweepReason) {start entry : Engine}
    (hvalid : faithfulness.Valid start) (hunheard : Unheard start entry)
    (hlimit : entry.followUps = start.followUps) :
    (sweep reason entry).Keeps faithfulness fun _ after =>
      faithfulness.Valid after ∧ faithfulness.Step start after := by
  obtain ⟨hentry, hstep⟩ := hunheard.faithfulness hvalid
  exact (dispatchOutline reason start).keeps_sweep ⟨hentry, hstep, hlimit⟩

/-- Asking for a query keeps the contract and makes no binding. -/
theorem keeps_matchMedia_faithfulness (query : Value) {start engine : Engine}
    (hvalid : faithfulness.Valid engine) (hstep : faithfulness.Step start engine) :
    (matchMedia query engine).Keeps faithfulness fun _ after =>
      (faithfulness.Valid after ∧ faithfulness.Step start after) ∧
        after.bindings = engine.bindings := by
  have hread : ∀ tree after, engine.Recalls query.display tree after →
      (faithfulness.Valid after ∧ faithfulness.Step start after) ∧
        after.bindings = engine.bindings := by
    intro tree after hrecalls
    obtain ⟨hafter, hlasts⟩ := (Unheard.recalls hrecalls).faithfulness hvalid
    exact ⟨⟨hafter, hstep.trans hlasts⟩, hrecalls.bindings⟩
  apply keeps_matchMedia
  · intro fault
    exact ⟨⟨hvalid, hstep⟩, rfl⟩
  · intro number _
    exact ⟨⟨hvalid, hstep⟩, rfl⟩
  · intro tree after _ hrecalls
    exact hread tree after hrecalls
  · intro tree after isMatch _ hrecalls _
    obtain ⟨⟨⟨hfaithful, hclosed⟩, hlasts⟩, hbindings⟩ := hread tree after hrecalls
    exact ⟨⟨⟨hfaithful.register _, hclosed⟩, hlasts.trans (Lasts.register after _)⟩, hbindings⟩

/-- The first delivery to a binding is a call that the contract allows. -/
theorem calls_deliver_faithfulness {start engine : Engine} {binding : Nat} {receiver : Text}
    (hvalid : faithfulness.Valid engine) (hstep : faithfulness.Step start engine)
    (hbinding : engine.bindings[binding]? = some { receiver }) (isMatch : Bool) :
    Calls faithfulness (.deliver binding receiver isMatch)
      (fun after => faithfulness.Valid after ∧ faithfulness.Step start after)
      (engine.note (.called (.deliver binding receiver isMatch))) := by
  have hunheard : Unheard engine (engine.note (.called (.deliver binding receiver isMatch))) :=
    Unheard.note (.called _) trivial engine
  obtain ⟨hnoted, hlasts⟩ := hunheard.faithfulness hvalid
  refine ⟨hnoted, .inr ⟨binding, receiver, isMatch, rfl, hbinding⟩, ?_⟩
  intro after hafter hcalled
  exact ⟨hafter, (hstep.trans hlasts).trans hcalled⟩

/-- Binding a query keeps the contract. -/
theorem honours_bind_faithfulness (query : Value) (receiver : Text) :
    Operation.Honours faithfulness (bind query receiver) := by
  intro engine hvalid
  obtain ⟨hadded, hstep⟩ := (Unheard.addBinding receiver engine).faithfulness hvalid
  have hbinding : (engine.addBinding receiver).bindings[engine.bindings.length]? =
      some { receiver } := List.getElem?_concat_length
  refine keeps_bindQuery
    (fun _ after => faithfulness.Valid after ∧ faithfulness.Step engine after)
    (fun after => faithfulness.Valid after ∧ faithfulness.Step engine after)
    (keeps_matchMedia_faithfulness query hadded hstep) ?_ ?_ ?_ ?_ ?_
  · intro fault records after hknown
    obtain ⟨⟨hafter, hasked⟩, hbindings⟩ := hknown
    obtain ⟨hnoted, hlasts⟩ := (Unheard.noteRecords records after).faithfulness hafter
    exact calls_deliver_faithfulness hnoted (hasked.trans hlasts) (hbindings ▸ hbinding) false
  · intro number after hknown isMatch _
    obtain ⟨⟨hafter, hasked⟩, hbindings⟩ := hknown
    exact calls_deliver_faithfulness hafter hasked (hbindings ▸ hbinding) isMatch
  · exact fun _ _ h => h
  · exact fun _ _ _ h => h
  · intro number after hlistening
    obtain ⟨hafter, hdelivered⟩ := hlistening
    have hunheard := (Unheard.listen number (some (.bound engine.bindings.length receiver))
      after).trans (Unheard.joinBinding engine.bindings.length number _)
    obtain ⟨hjoined, hlasts⟩ := hunheard.faithfulness hafter
    exact ⟨hjoined, hdelivered.trans hlasts⟩

/-- Every request keeps the contract about change events. -/
theorem requestRules_faithfulness : RequestRules faithfulness fun _ => True where
  asks query engine hvalid :=
    (keeps_matchMedia_faithfulness query hvalid (faithfulness.refl engine)).imp fun _ _ h => h.1
  binds := honours_bind_faithfulness
  takesDue limit engine hvalid := (Unheard.takeDue limit engine).faithfulness hvalid
  startsFrame engine hvalid _ :=
    keeps_sweep_faithfulness .resize hvalid (Unheard.startFrame engine) rfl
  refuses values engine hvalid := (Unheard.refuseOverrides values engine).faithfulness hvalid
  replaces values engine hvalid :=
    keeps_sweep_faithfulness .overrides hvalid (Unheard.replaceOverrides values engine) rfl
  changes _ hchange engine hvalid := (Unheard.of_change hchange engine).faithfulness hvalid

/-- Whatever the host and its listeners do, in any order and nesting: every handle was made once,
and the answers it was dispatched alternate, the first of them being another than the one it was
made with, and the last being the present one; dispatches do not overlap, and none is open while
no operation is under way; and whenever a listener is called, it is told of the event that its
handle has at that moment. The only other calls are the first deliveries of bindings. -/
theorem change_events_faithful (options : EngineOptions)
    (moves : List (Move Request (Except Fault Unit))) :
    let session := sessionAfter options moves
    let journal := session.state.journal
    (∀ number handle, session.state.handle? number = some handle →
      ∃ first, madeWith number journal = [first] ∧
        (changes number journal ++ [first]).IsChain (· ≠ ·) ∧
        (changes number journal ++ [first]).head? = some handle.isMatch) ∧
      IsOrderly journal ∧
      (session.isIdle = true → openDispatch journal = none) ∧
      ∀ callback history, session.history = .called callback :: history →
        session.state.IsTold callback ∨ session.state.IsFirstDelivery callback := by
  intro session journal
  have hnew : faithfulness.Valid (create options) :=
    ⟨Faithful.create options, fun _ => (goesOn_create options).openDispatch⟩
  have hobeys : session.Obeys faithfulness (create options) :=
    requestRules_faithfulness.obeys hnew fun move _ => move.begins_of_forall fun _ => trivial
  obtain ⟨hfaithful, hclosed⟩ := hobeys.valid
  refine ⟨?_, hfaithful.orderly, ?_, hobeys.call⟩
  · intro number handle hhandle
    have htells := hfaithful.tells number
    rw [present, hhandle] at htells
    obtain ⟨⟨first, hfirst⟩, hchain, hlast⟩ := htells
    rw [answers, hfirst] at hchain hlast
    exact ⟨first, hfirst, hchain, hlast⟩
  · intro hidle
    exact hclosed (hobeys.step_of_isIdle hidle).sweeping

end Breakpoint.Engine
