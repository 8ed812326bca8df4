import Breakpoint.Proofs.Engine.Filing

/-!
# Where a session stands

The journal tells at every moment which sweep is under way, how many passes it has begun and
which dispatch is open, and this is where the suspended sweep stands, if one is suspended. At
most one is, since a sweep that is asked for meanwhile only asks for a further pass.
-/

namespace Breakpoint

/-- An entry that leaves the sweep under way as it is: it neither begins nor ends a sweep, a pass or
a dispatch, and warns of nothing but an unsupported query. -/
def Entry.IsMinor : Entry → Prop
  | .record written => written.level = .warning → written.source = .parser
  | .handleMade _ _ | .called _ | .bindingJoined _ _ => True
  | .sweepBegan _ | .passBegan | .sweepEnded | .dispatchBegan _ _ | .told _ _ _
  | .dispatchEnded _ => False

/-- An entry that a sweep writes between two calls. -/
def Entry.IsSilent : Entry → Prop
  | .record _ | .passBegan | .dispatchBegan _ _ | .dispatchEnded _ => True
  | .sweepBegan _ | .sweepEnded | .handleMade _ _ | .told _ _ _ | .called _
  | .bindingJoined _ _ => False

/-- A plain entry is a minor one. -/
theorem Entry.IsPlain.isMinor {entry : Entry} (h : entry.IsPlain) : entry.IsMinor := by
  cases entry with
  | record written => exact fun hwarning => absurd hwarning h
  | _ => exact h

/-- What is recorded of a query that is read is minor. -/
theorem Query.isMinor_of_parseLogged {room : Nat} {media : Text} {tree : Option Query}
    {records : List LogRecord} (h : Query.parseLogged room media = .ok (tree, records))
    {record : LogRecord} (hrecord : record ∈ records) : Entry.IsMinor (.record record) := by
  rw [Query.parseLogged] at h
  split at h
  · cases h
    cases hrecord
  · cases h
    cases List.mem_singleton.1 hrecord
    exact fun _ => rfl
  · cases h

namespace Journal

variable {entry : Entry} {journal : Journal}

/-- The sweep that has begun and not ended, with its reason and the passes it has begun. -/
def openSweep : Journal → Option (SweepReason × Nat)
  | [] => none
  | .sweepBegan reason :: _ => some (reason, 0)
  | .passBegan :: journal => (openSweep journal).map fun sweep => (sweep.1, sweep.2 + 1)
  | .sweepEnded :: _ => none
  | _ :: journal => openSweep journal

/-- A minor entry neither begins nor ends a sweep. -/
theorem openSweep_minor (h : entry.IsMinor) : openSweep (entry :: journal) = openSweep journal := by
  cases entry <;> first | rfl | exact h.elim

/-- A minor entry neither begins nor ends a dispatch. -/
theorem openDispatch_minor (h : entry.IsMinor) :
    openDispatch (entry :: journal) = openDispatch journal := by
  cases entry <;> first | rfl | exact h.elim

end Journal

namespace Engine

open Journal

/-! ## Stages and the journal -/

/-- A sweep is under way in a round: so many passes were begun, the dispatch is open, if any, and
as many passes may follow as the limit allows. -/
structure Round.Holds (round : Round) (begun : Nat) (dispatch : Option Nat) (engine : Engine) :
    Prop where
  sweeping : engine.isSweeping = true
  passes : openSweep engine.journal = some (round.reason, begun)
  dispatch : openDispatch engine.journal = dispatch
  limit : round.allowed.map (round.before + ·) = furtherPasses engine.followUps

/-- A sweep has made its passes: no dispatch is open, and no further pass is asked for, unless the
limit cannot be compared. -/
structure IsClosing (engine : Engine) : Prop where
  sweeping : engine.isSweeping = true
  passes : ∃ reason begun, openSweep engine.journal = some (reason, begun + 1)
  dispatch : openDispatch engine.journal = none
  request : engine.followUps ≠ .incomparable → engine.followUpRequested = false

/-- The stage is the one at which the engine stands. -/
def Stage.Fits : Stage → Engine → Prop
  | .starting round, engine => round.Holds round.before none engine
  | .visiting tour _, engine => tour.round.Holds (tour.round.before + 1) none engine
  | .opening announcement, engine | .listing announcement, engine
  | .telling announcement _, engine =>
    announcement.tour.round.Holds (announcement.tour.round.before + 1)
      (some announcement.number) engine
  | .passed round, engine => round.Holds (round.before + 1) none engine
  | .closing _, engine => IsClosing engine

variable {stage next : Stage} {engine after : Engine}

/-- A change that writes minor entries only and leaves the sweep alone, but that it may ask the
sweep under way for a further pass. -/
structure Quiet (before after : Engine) : Prop where
  sweeping : after.isSweeping = before.isSweeping
  limit : after.followUps = before.followUps
  journal : Adds Entry.IsMinor before.journal after.journal
  request : after.followUpRequested = true →
    before.followUpRequested = true ∨ before.isSweeping = true

namespace Quiet

variable {before middle : Engine}

/-- A quiet change leaves the open sweep open. -/
theorem openSweep (h : Quiet before after) :
    openSweep after.journal = openSweep before.journal :=
  Adds.keeps Journal.openSweep openSweep_minor h.journal

/-- A quiet change leaves the open dispatch open. -/
theorem openDispatch (h : Quiet before after) :
    openDispatch after.journal = openDispatch before.journal :=
  Adds.keeps Journal.openDispatch openDispatch_minor h.journal

/-- A state differs from itself quietly. -/
theorem refl (engine : Engine) : Quiet engine engine := ⟨rfl, rfl, Adds.refl _ _, .inl⟩

/-- Two quiet changes in turn are one. -/
theorem trans (hfirst : Quiet before middle) (hsecond : Quiet middle after) :
    Quiet before after where
  sweeping := hsecond.sweeping.trans hfirst.sweeping
  limit := hsecond.limit.trans hfirst.limit
  journal := hfirst.journal.trans hsecond.journal
  request hrequest := by
    rcases hsecond.request hrequest with hrequest | hsweeping
    · exact hfirst.request hrequest
    · exact .inr (hfirst.sweeping ▸ hsweeping)

/-- A plain change is quiet. -/
theorem of_plain (h : Plain before after) : Quiet before after := by
  refine ⟨?_, ?_, h.journal.mono fun _ => Entry.IsPlain.isMinor, ?_⟩
  · rw [h.same]
  · rw [h.same]
  · rw [h.same]
    exact .inl

/-- A minor entry is a quiet change. -/
theorem note (engine : Engine) {entry : Entry} (h : entry.IsMinor) :
    Quiet engine (engine.note entry) :=
  ⟨rfl, rfl, Adds.single entry _ h, .inl⟩

/-- Detaching all handles is quiet. -/
theorem detachAll (engine : Engine) : Quiet engine engine.detachAll :=
  ⟨rfl, rfl, Adds.refl _ _, by rintro ⟨⟩⟩

/-- Destruction is quiet. -/
theorem tearDown (engine : Engine) : Quiet engine engine.tearDown := by
  have hleft : Plain engine engine.stopObserving.cancelFrame :=
    (Plain.stopObserving engine).trans (.cancelFrame _)
  exact ((of_plain hleft).trans (detachAll _)).trans (of_plain (.markDestroyed _))

/-- Every request that changes the engine at once is quiet. -/
theorem of_change {request : Request} {change : Engine → Engine}
    (h : request.change? = some change) (engine : Engine) : Quiet engine (change engine) := by
  by_cases hdestroys : request = .destroy
  · subst hdestroys
    cases h
    exact tearDown engine
  · exact of_plain (.of_change h hdestroys engine)

/-- Finding the tree of a query is quiet. -/
theorem of_finds {media : Text} {tree : Option Query} (h : Finds media engine tree after) :
    Quiet engine after := by
  cases h with
  | remembered hknown => exact refl engine
  | read hunread hread =>
    exact ⟨rfl, rfl, Adds.of_records (fun _ => Query.isMinor_of_parseLogged hread) _, .inl⟩

/-- Asking for a query is quiet. -/
theorem of_asks {query : Value} {outcome : Except Fault Nat}
    (h : matchMedia query engine = .done outcome after) : Quiet engine after := by
  cases asks_of_done h with
  | refused hrefused => exact refl engine
  | known hknown => exact refl engine
  | fails hnew hfinds hlevel => exact (of_finds hfinds).trans (of_plain (.noteRecords _ hlevel))
  | makes hnew hfinds hlevel hfirst =>
    have hnoted := (of_finds hfinds).trans (of_plain (.noteRecords _ hlevel))
    exact hnoted.trans ⟨rfl, rfl, Adds.single (.handleMade _ _) _ trivial, .inl⟩

/-- Asking the sweep under way for a further pass is quiet. -/
theorem requestFollowUp (h : engine.isSweeping = true) : Quiet engine engine.requestFollowUp :=
  ⟨rfl, rfl, Adds.refl _ _, fun _ => .inr h⟩

/-- A move after which the host has control at once is quiet. -/
theorem of_hostStep {move : Move Request (Except Fault Unit)} {waiting now : List Suspension}
    {event : Event} (h : HostStep move waiting engine (.rests event now) after) :
    Quiet engine after := by
  cases h with
  | changes hchange => exact of_change hchange engine
  | asks hasks => exact of_asks hasks
  | binds hasks =>
    have hasked := (of_plain (.addBinding engine _)).trans (of_asks hasks)
    exact hasked.trans (of_plain (.note _ trivial))
  | refuses hasks hlevel =>
    have hasked := (of_plain (.addBinding engine _)).trans (of_asks hasks)
    exact (hasked.trans (of_plain (.noteRecords _ hlevel))).trans (of_plain (.note _ trivial))
  | declines hfault => exact of_plain (.refuseOverrides engine _)
  | joinsSweep hprompts hsweeping =>
    have hprompted := of_plain (.of_prompts hprompts)
    exact hprompted.trans (requestFollowUp (hprompted.sweeping.trans hsweeping))
  | joins => exact of_plain ((Plain.listen engine _ _).trans (.joinBinding _ _ _))
  | idles => exact refl engine
  | drops => exact refl engine
  | leaves => exact refl engine

end Quiet

/-- A round does not mind quiet changes. -/
theorem Round.Holds.quiet {round : Round} {begun : Nat} {dispatch : Option Nat}
    (h : round.Holds begun dispatch engine) (hquiet : Quiet engine after) :
    round.Holds begun dispatch after where
  sweeping := hquiet.sweeping.trans h.sweeping
  passes := hquiet.openSweep.trans h.passes
  dispatch := hquiet.openDispatch.trans h.dispatch
  limit := hquiet.limit ▸ h.limit

/-- A pass begins. -/
theorem Round.Holds.beginPass {round : Round} (h : round.Holds round.before none engine) :
    round.Holds (round.before + 1) none engine.beginPass where
  sweeping := h.sweeping
  passes := by
    show (openSweep engine.journal).map _ = _
    rw [h.passes]
    rfl
  dispatch := h.dispatch
  limit := h.limit

/-- A sweep closes once no further pass is asked for. -/
theorem Round.Holds.isClosing {round : Round} {begun : Nat}
    (h : round.Holds (begun + 1) none engine)
    (hrequest : engine.followUps ≠ .incomparable → engine.followUpRequested = false) :
    IsClosing engine :=
  ⟨h.sweeping, ⟨_, _, h.passes⟩, h.dispatch, hrequest⟩

/-- A limit that allows no number of passes cannot be compared. -/
theorem incomparable_of_furtherPasses {limit : FollowUpLimit} (h : furtherPasses limit = none) :
    limit = .incomparable := by
  cases limit with
  | atMost limit => cases h
  | incomparable => rfl

/-- A step leads to the stage at which the engine stands then. -/
theorem Stage.Step.fits (h : stage.Step engine next after) (hfiled : engine.IsFiled)
    (hfits : stage.Fits engine) : next.Fits after := by
  cases h with
  | unreadable hsize =>
    exact hfits.beginPass.quiet (.note _ (by simp [Entry.IsMinor, sizeFailure]))
  | misread hsize hfault => exact hfits.beginPass.isClosing fun _ => rfl
  | @reads round engine width height hsize =>
    exact hfits.beginPass.quiet (.of_plain (.noteRecords _ fun _ => level_hostRecords))
  | skips hsame => exact hfits
  | fails hhandle hquery hattached hfault =>
    obtain ⟨isMatch, hanswer⟩ := hfiled.evaluate_isOk hhandle hquery _
    cases hanswer.symm.trans hfault
  | changes hhandle hquery hattached hanswer hchange =>
    exact ⟨hfits.sweeping, hfits.passes, rfl, hfits.limit⟩
  | visited => exact hfits
  | unslotted hslot => exact hfits
  | lists => exact hfits
  | closes => exact ⟨hfits.sweeping, hfits.passes, rfl, hfits.limit⟩
  | rests hrequest => exact hfits.isClosing fun _ => hrequest
  | @stalls round engine hrequest hallowed =>
    apply hfits.isClosing
    intro hcomparable
    have hlimit := hfits.limit
    rw [hallowed] at hlimit
    exact absurd (incomparable_of_furtherPasses hlimit.symm) hcomparable
  | givesUp hrequest hallowed =>
    exact ⟨hfits.sweeping, ⟨_, _, hfits.passes⟩, hfits.dispatch, fun _ => rfl⟩
  | @follows round engine allowed hrequest hallowed =>
    refine ⟨hfits.sweeping, hfits.passes, hfits.dispatch, ?_⟩
    rw [← hfits.limit, hallowed]
    show some (round.before + 1 + allowed) = some (round.before + (allowed + 1))
    rw [Nat.add_right_comm, Nat.add_assoc]

/-- Between two calls a sweep tells no one. -/
theorem Stage.Step.adds (h : stage.Step engine next after) :
    Adds Entry.IsSilent engine.journal after.journal := by
  cases h with
  | unreadable hsize =>
    exact (Adds.single .passBegan _ trivial).trans (Adds.single (.record _) _ trivial)
  | misread hsize hfault => exact Adds.single .passBegan _ trivial
  | reads hsize =>
    exact (Adds.single .passBegan _ trivial).trans (Adds.records (fun _ => trivial) _ _)
  | changes hhandle hquery hattached hanswer hchange =>
    exact Adds.single (.dispatchBegan _ _) _ trivial
  | closes => exact Adds.single (.dispatchEnded _) _ trivial
  | givesUp hrequest hallowed => exact Adds.single (.record _) _ trivial
  | _ => exact Adds.refl _ _

/-- A listener is called in an open dispatch. -/
theorem Stage.Calls.fits {turn : Turn} {listener : Listener} (h : stage.Calls engine turn listener)
    (hfits : stage.Fits engine) :
    turn.continued.Fits (engine.noteTurn turn.announcement listener) := by
  cases h <;> exact ⟨hfits.sweeping, hfits.passes, hfits.dispatch, hfits.limit⟩

/-- A suspended dispatch does not mind quiet changes. -/
theorem Turn.fits_quiet {turn : Turn} (h : turn.continued.Fits engine)
    (hquiet : Quiet engine after) : turn.continued.Fits after := by
  cases turn <;> exact Round.Holds.quiet h hquiet

/-! ## The stack of what waits -/

/-- The dispatch that is suspended, if it is one. -/
def Suspension.turn? : Suspension → Option Turn
  | .telling turn _ => some turn
  | .joining _ _ _ | .refused _ => none

/-- The dispatches that are suspended. -/
def turns (waiting : List Suspension) : List Turn := waiting.filterMap Suspension.turn?

/-- A dispatch that calls a listener is the only one that is suspended. -/
theorem turns_telling {waiting : List Suspension} (h : turns waiting = []) (turn : Turn)
    (answer : Answer) : turns (.telling turn answer :: waiting) = [turn] := by
  show turn :: turns waiting = [turn]
  rw [h]

/-- No sweep is under way: none is open in the journal, and no pass is asked for, unless the limit
cannot be compared. -/
structure IsFree (engine : Engine) : Prop where
  idle : engine.isSweeping = false
  passes : openSweep engine.journal = none
  dispatch : openDispatch engine.journal = none
  request : engine.followUps ≠ .incomparable → engine.followUpRequested = false

/-- The host has control: either no sweep is under way, or one is suspended, and the engine stands
where it goes on. -/
inductive Poised (waiting : List Suspension) (engine : Engine) : Prop where
  | free (hnone : turns waiting = []) (hfree : IsFree engine)
  | suspended {turn : Turn} (hone : turns waiting = [turn]) (hfits : turn.continued.Fits engine)

/-- An engine without a sweep has none after a quiet change. -/
theorem IsFree.quiet (h : IsFree engine) (hquiet : Quiet engine after) : IsFree after where
  idle := hquiet.sweeping.trans h.idle
  passes := hquiet.openSweep.trans h.passes
  dispatch := hquiet.openDispatch.trans h.dispatch
  request hcomparable := by
    rw [hquiet.limit] at hcomparable
    cases hrequest : after.followUpRequested with
    | false => rfl
    | true =>
      rcases hquiet.request hrequest with hwas | hsweeping
      · cases hwas.symm.trans (h.request hcomparable)
      · cases hsweeping.symm.trans h.idle

/-- An engine stands where it goes on after a quiet change, too, if the same dispatches are
suspended. -/
theorem Poised.quiet {waiting now : List Suspension} (h : Poised waiting engine)
    (hsame : turns now = turns waiting) (hquiet : Quiet engine after) : Poised now after := by
  cases h with
  | free hnone hfree => exact .free (hsame.trans hnone) (hfree.quiet hquiet)
  | suspended hone hfits => exact .suspended (hsame.trans hone) (Turn.fits_quiet hfits hquiet)

/-- A closed sweep leaves the engine free. -/
theorem IsClosing.isFree (h : IsClosing engine) : IsFree engine.endSweep :=
  ⟨rfl, rfl, h.dispatch, h.request⟩

/-- A sweep is under way where a dispatch is suspended. -/
theorem Turn.sweeping {turn : Turn} (h : turn.continued.Fits engine) :
    engine.isSweeping = true := by
  cases turn <;> exact Round.Holds.sweeping h

/-- The dispatch of a turn is open. -/
theorem Turn.openDispatch {turn : Turn} (h : turn.continued.Fits engine) :
    Journal.openDispatch engine.journal = some turn.announcement.number := by
  cases turn <;> exact Round.Holds.dispatch h

section Moves

variable {move : Move Request (Except Fault Unit)} {waiting now : List Suspension} {event : Event}
  {answer : Answer}

/-- The same dispatches are suspended when the host has control again without a sweep. -/
theorem HostStep.turns_eq (h : HostStep move waiting engine (.rests event now) after) :
    turns now = turns waiting := by
  cases h <;> rfl

/-- An engine that the host has control of again stands where it goes on. -/
theorem HostStep.poised (h : HostStep move waiting engine (.rests event now) after)
    (hpoised : Poised waiting engine) : Poised now after :=
  hpoised.quiet h.turns_eq (.of_hostStep h)

/-- A sweep that begins, or goes on, is the only one. -/
theorem HostStep.fits (h : HostStep move waiting engine (.sweeps stage answer now) after)
    (hpoised : Poised waiting engine) : turns now = [] ∧ stage.Fits after := by
  cases h with
  | @beginsSweep request reason answer waiting engine entry hprompts hfree =>
    cases hpoised with
    | free hnone hidle =>
      have hprompted := hidle.quiet (.of_plain (.of_prompts hprompts))
      refine ⟨hnone, rfl, rfl, hprompted.dispatch, ?_⟩
      have hlimit : entry.followUps = engine.followUps := by cases hprompts <;> rfl
      show (furtherPasses engine.followUps).map (0 + ·) = furtherPasses entry.followUps
      rw [hlimit]
      cases furtherPasses engine.followUps <;> simp
    | suspended hone hfits => cases hfree.symm.trans (Turn.sweeping hfits)
  | @hears turn answer reply waiting engine =>
    have hturns : turns (.telling turn answer :: now) = turn :: turns now := rfl
    cases hpoised with
    | free hnone hidle => cases hturns.symm.trans hnone
    | suspended hone hfits =>
      obtain ⟨rfl, hnone⟩ := List.cons.inj (hturns.symm.trans hone)
      exact ⟨hnone, Turn.fits_quiet hfits (.of_plain (.hear turn reply engine))⟩

/-- What every step of a sweep keeps holds when the sweep comes to a stop. -/
theorem Arrives.keeps (during : Stage → Engine → Prop) (holds : List Suspension → Engine → Prop)
    (hstep : ∀ {stage engine next after}, stage.Fits engine → engine.IsFiled →
      stage.Step engine next after → during stage engine → during next after)
    (hends : ∀ {outcome engine}, IsClosing engine → during (.closing outcome) engine →
      holds waiting engine.endSweep)
    (hcalls : ∀ {stop turn listener engine}, stop.Fits engine → stop.Calls engine turn listener →
      during stop engine →
        holds (.telling turn answer :: waiting) (engine.noteTurn turn.announcement listener))
    (h : Arrives (.sweeps stage answer waiting) engine event now after) (hfits : stage.Fits engine)
    (hfiled : engine.IsFiled) (hduring : during stage engine) : holds now after := by
  have hreached : ∀ {stop last}, stage.Reaches engine stop last →
      (stop.Fits last ∧ last.IsFiled) ∧ during stop last := by
    intro stop last hreaches
    apply hreaches.induct _ ⟨⟨hfits, hfiled⟩, hduring⟩
    rintro stage next engine after hone ⟨⟨hfits, hfiled⟩, hduring⟩
    exact ⟨⟨hone.fits hfiled hfits, hfiled.step hone⟩, hstep hfits hfiled hone hduring⟩
  cases h with
  | ends hreaches =>
    obtain ⟨⟨hclosing, -⟩, hlast⟩ := hreached hreaches
    exact hends hclosing hlast
  | calls hreaches hcall =>
    obtain ⟨⟨hstop, -⟩, hlast⟩ := hreached hreaches
    exact hcalls hstop hcall hlast

/-- What the outset of a move brings about, and every step of its sweep keeps, holds at the stop to
which the move leads. -/
theorem Leads.keeps (during : List Suspension → Stage → Engine → Prop)
    (holds : List Suspension → Engine → Prop)
    (hrests : ∀ {event rest middle}, HostStep move waiting engine (.rests event rest) middle →
      holds rest middle)
    (hsweeps : ∀ {stage answer rest middle},
      HostStep move waiting engine (.sweeps stage answer rest) middle → during rest stage middle)
    (hstep : ∀ {rest stage engine next after}, stage.Fits engine → engine.IsFiled →
      stage.Step engine next after → during rest stage engine → during rest next after)
    (hends : ∀ {rest outcome engine}, turns rest = [] → IsClosing engine →
      during rest (.closing outcome) engine → holds rest engine.endSweep)
    (hcalls : ∀ {rest answer stop turn listener engine}, turns rest = [] → stop.Fits engine →
      stop.Calls engine turn listener → during rest stop engine →
        holds (.telling turn answer :: rest) (engine.noteTurn turn.announcement listener))
    (h : Leads move waiting engine event now after) (hfiled : engine.IsFiled)
    (hpoised : Poised waiting engine) : holds now after := by
  obtain ⟨outset, middle, hhost, harrives⟩ := h
  cases outset with
  | rests event rest =>
    cases harrives
    exact hrests hhost
  | sweeps stage answer rest =>
    obtain ⟨hnone, hfits⟩ := hhost.fits hpoised
    exact harrives.keeps (during rest) holds hstep (hends hnone) (hcalls hnone) hfits
      (hfiled.hostStep hhost) (hsweeps hhost)

/-- After a move the host has control again: at most one sweep is suspended, and the engine stands
where it goes on. -/
theorem Leads.poised (h : Leads move waiting engine event now after) (hfiled : engine.IsFiled)
    (hpoised : Poised waiting engine) : Poised now after := by
  refine h.keeps (fun _ _ _ => True) Poised ?_ ?_ ?_ ?_ ?_ hfiled hpoised
  · exact fun hhost => hhost.poised hpoised
  · exact fun _ => trivial
  · exact fun _ _ _ _ => trivial
  · exact fun hnone hclosing _ => .free hnone hclosing.isFree
  · exact fun hnone hstop hcalls _ => .suspended (turns_telling hnone _ _) (hcalls.fits hstop)

/-- The handles stay filed through every move of the host. -/
theorem Leads.filed (h : Leads move waiting engine event now after) (hfiled : engine.IsFiled) :
    after.IsFiled := by
  obtain ⟨outset, middle, hhost, harrives⟩ := h
  exact (hfiled.hostStep hhost).arrives harrives

end Moves

/-! ## Sessions -/

/-- A session as every session is: the operations of the list wait, the handles are filed, and the
engine is tidy and stands where it goes on. -/
structure Stands (session : EngineSession) (waiting : List Suspension) : Prop where
  waits : session.waiting = waiting.map Suspension.resume
  upheld : session.Upheld finality
  filed : session.state.IsFiled
  poised : Poised waiting session.state

/-- A new engine has written minor entries only. -/
theorem adds_create (options : EngineOptions) : Adds Entry.IsMinor [] (create options).journal := by
  have hrecords : Adds Entry.IsMinor [] (((Overrides.normaliseRecords
      (initialOverrides options)).map .record).reverse ++ []) := by
    apply Adds.of_records
    intro record hrecord hwarning
    rw [Overrides.level_normaliseRecords hrecord] at hwarning
    cases hwarning
  rw [List.append_nil] at hrecords
  exact hrecords

/-- A new session stands. -/
theorem stands_new (options : EngineOptions) :
    Stands { state := create options } [] where
  waits := rfl
  upheld := Session.upheld_new (isTidy_create options)
  filed := .create options
  poised := by
    refine .free rfl ⟨rfl, ?_, ?_, fun _ => rfl⟩
    · exact Adds.keeps openSweep openSweep_minor (adds_create options)
    · exact Adds.keeps openDispatch openDispatch_minor (adds_create options)

section Runs

variable {session : EngineSession} {waiting : List Suspension}

/-- One move of the host: nothing waits for the answer, or the move leads to the next stop. -/
theorem Stands.step (h : Stands session waiting) (move : Move Request (Except Fault Unit)) :
    (waiting = [] ∧ (∃ reply, move = .answer reply) ∧ session.step perform move = session) ∨
      ∃ event now, Leads move waiting session.state event now (session.step perform move).state ∧
        Stands (session.step perform move) now ∧
          (session.step perform move).history = event :: happening move :: session.history := by
  have hsession : session = sessionAt session.state waiting session.history := by
    rw [sessionAt, ← h.waits]
  rcases step_sessionAt h.upheld.valid.paced waiting session.history move with
    ⟨rfl, reply, rfl⟩ | ⟨event, now, last, hleads, hstep⟩
  · left
    refine ⟨rfl, ⟨reply, rfl⟩, ?_⟩
    rw [hsession]
    rfl
  · right
    rw [← hsession] at hstep
    have hupheld := (h.upheld.step upholds_perform move).1
    rw [hstep] at hupheld ⊢
    exact ⟨event, now, hleads, ⟨rfl, hupheld, hleads.filed h.filed, hleads.poised h.filed h.poised⟩,
      rfl⟩

/-- After some moves a session is as it was, or has just come to the stop to which a last move led. -/
theorem Stands.run_last (holds : List Suspension → Engine → Prop)
    (allowed : Move Request (Except Fault Unit) → Prop)
    (hmove : ∀ {move waiting engine event now last}, allowed move → engine.IsFiled →
      Poised waiting engine → Leads move waiting engine event now last → holds waiting engine →
        holds now last)
    (h : Stands session waiting) (hholds : holds waiting session.state)
    {moves : List (Move Request (Except Fault Unit))} (hmoves : ∀ move ∈ moves, allowed move) :
    session.run perform moves = session ∨
      ∃ move earlier engine event now, Poised earlier engine ∧ engine.IsFiled ∧
        holds earlier engine ∧ allowed move ∧
          Leads move earlier engine event now (session.run perform moves).state ∧
            Stands (session.run perform moves) now ∧
              (session.run perform moves).history.head? = some event := by
  induction moves generalizing session waiting with
  | nil => exact .inl rfl
  | cons move moves ih =>
    rw [List.forall_mem_cons] at hmoves
    have hrun : session.run perform (move :: moves) =
        (session.step perform move).run perform moves := rfl
    rw [hrun]
    rcases h.step move with ⟨-, -, hsame⟩ | ⟨event, now, hleads, hstands, hhistory⟩
    -- an answer that nothing waits for leads nowhere
    · rw [hsame]
      exact ih h hholds hmoves.2
    · right
      rcases ih hstands (hmove hmoves.1 h.filed h.poised hleads hholds) hmoves.2 with hsame | hlast
      · refine ⟨move, waiting, session.state, event, now, h.poised, h.filed, hholds, hmoves.1, ?_⟩
        rw [hsame]
        exact ⟨hleads, hstands, by rw [hhistory, List.head?_cons]⟩
      · exact hlast

/-- What every move of a kind keeps holds after any such moves. -/
theorem Stands.run_of (holds : List Suspension → Engine → Prop)
    (allowed : Move Request (Except Fault Unit) → Prop)
    (hmove : ∀ {move waiting engine event now last}, allowed move → engine.IsFiled →
      Poised waiting engine → Leads move waiting engine event now last → holds waiting engine →
        holds now last)
    (h : Stands session waiting) (hholds : holds waiting session.state)
    {moves : List (Move Request (Except Fault Unit))} (hmoves : ∀ move ∈ moves, allowed move) :
    ∃ now, Stands (session.run perform moves) now ∧
      holds now (session.run perform moves).state := by
  rcases h.run_last holds allowed hmove hholds hmoves with
    hsame | ⟨move, earlier, engine, event, now, hpoised, hfiled, hearlier, hallowed, hleads, hstands, -⟩
  · rw [hsame]
    exact ⟨waiting, h, hholds⟩
  · exact ⟨now, hstands, hmove hallowed hfiled hpoised hleads hearlier⟩

/-- What every move keeps holds at every later moment of a session. -/
theorem Stands.run (holds : List Suspension → Engine → Prop)
    (hmove : ∀ {move waiting engine event now last}, engine.IsFiled → Poised waiting engine →
      Leads move waiting engine event now last → holds waiting engine → holds now last)
    (h : Stands session waiting) (hholds : holds waiting session.state)
    (moves : List (Move Request (Except Fault Unit))) :
    ∃ now, Stands (session.run perform moves) now ∧
      holds now (session.run perform moves).state :=
  h.run_of holds (fun _ => True) (fun _ => hmove) hholds fun _ _ => trivial

/-- Every session stands somewhere. -/
theorem stands_sessionAfter (options : EngineOptions)
    (moves : List (Move Request (Except Fault Unit))) :
    ∃ waiting, Stands (sessionAfter options moves) waiting := by
  obtain ⟨now, hstands, -⟩ := (stands_new options).run (fun _ _ => True) (fun _ _ _ => id) trivial moves
  exact ⟨now, hstands⟩

end Runs

end Engine

end Breakpoint
