import Breakpoint.Proofs.Engine.Changes
import Breakpoint.Proofs.Engine.Dispatching
import Breakpoint.Proofs.Engine.Registry
import Breakpoint.Proofs.Engine.Revocation

/-!
# Listeners that fail

A listener that fails leaves one record, and everything goes on as if it had returned. The handles
are visited in the order of their registration, and no fault of a listener comes back to the host
that asked for the sweep.
-/

namespace Breakpoint

/-- An entry by which no one is told of an event. -/
def Entry.IsUntold : Entry → Prop
  | .told _ _ _ => False
  | _ => True

/-- By a minor entry no one is told. -/
theorem Entry.IsMinor.isUntold {entry : Entry} (h : entry.IsMinor) : entry.IsUntold := by
  cases entry <;> trivial

/-- By an entry between two calls no one is told. -/
theorem Entry.IsSilent.isUntold {entry : Entry} (h : entry.IsSilent) : entry.IsUntold := by
  cases entry <;> trivial

/-- The handles whose dispatches have begun since the last pass did, the last first. -/
def Journal.dispatched : Journal → List Nat
  | [] => []
  | .passBegan :: _ => []
  | .dispatchBegan number _ :: journal => number :: dispatched journal
  | _ :: journal => dispatched journal

/-- A minor entry begins no dispatch. -/
theorem Journal.dispatched_minor {entry : Entry} {journal : Journal} (h : entry.IsMinor) :
    dispatched (entry :: journal) = dispatched journal := by
  cases entry <;> first | rfl | exact h.elim

namespace Engine

open Journal

variable {engine after : Engine} {stage next : Stage} {waiting now rest : List Suspension}
  {move : Move Request (Except Fault Unit)} {event : Event} {answer : Answer}

/-! ## Calls -/

/-- Before a sweep goes on no one is told of an event. -/
theorem HostStep.untold {outset : Outset} (h : HostStep move waiting engine outset after) :
    Adds Entry.IsUntold engine.journal after.journal := by
  cases outset with
  | rests event rest => exact (Quiet.of_hostStep h).journal.mono fun _ => Entry.IsMinor.isUntold
  | sweeps stage answer rest =>
    cases h with
    | beginsSweep hprompts hfree =>
      have hprompted := (Quiet.of_plain (.of_prompts hprompts)).journal
      exact (hprompted.mono fun _ => Entry.IsMinor.isUntold).trans (Adds.single _ _ trivial)
    | hears =>
      exact (Quiet.of_plain (.hear _ _ engine)).journal.mono fun _ => Entry.IsMinor.isUntold

/-- A move tells no one of an event, or it ends with the call of the one listener that it tells. -/
theorem Leads.tells (hleads : Leads move waiting engine event now after) :
    Adds Entry.IsUntold engine.journal after.journal ∨
      ∃ turn answer rest listener older, now = .telling turn answer :: rest ∧
        event = .called (turn.announcement.callback listener) ∧
          after.journal = .called (turn.announcement.callback listener) ::
            .told turn.announcement.number turn.announcement.event listener :: older ∧
              Adds Entry.IsUntold engine.journal older := by
  obtain ⟨outset, middle, hhost, harrives⟩ := hleads
  have hreached : ∀ {stage stop : Stage} {last : Engine}, stage.Reaches middle stop last →
      Adds Entry.IsUntold engine.journal last.journal := by
    intro stage stop last hreaches
    apply hreaches.induct _ hhost.untold
    exact fun hstep hadds => hadds.trans (hstep.adds.mono fun _ => Entry.IsSilent.isUntold)
  cases harrives with
  | rests => exact .inl hhost.untold
  | ends hreaches => exact .inl ((hreached hreaches).trans (Adds.single .sweepEnded _ trivial))
  | calls hreaches hcalls =>
    exact .inr ⟨_, _, _, _, _, rfl, rfl, rfl, hreached hreaches⟩

/-! ## Failing listeners -/

/-- A sweep does not read the journal: with another one, it takes the same step and writes the same
entries. -/
theorem Stage.Step.with_journal (h : stage.Step engine next after) :
    ∃ added, after.journal = added ++ engine.journal ∧
      ∀ journal, stage.Step { engine with journal } next { after with journal := added ++ journal } := by
  cases h with
  | unreadable hsize => exact ⟨[_, _], rfl, fun journal => .unreadable hsize⟩
  | misread hsize hfault => exact ⟨[_], rfl, fun journal => .misread hsize hfault⟩
  | @reads round engine width height hsize =>
    refine ⟨(engine.hostRecords.map .record).reverse ++ [.passBegan], ?_, fun journal => ?_⟩
    · rw [List.append_assoc]
      rfl
    · rw [List.append_assoc]
      exact .reads hsize
  | skips hsame => exact ⟨[], rfl, fun journal => .skips hsame⟩
  | fails hhandle hquery hattached hfault =>
    exact ⟨[], rfl, fun journal => .fails hhandle hquery hattached hfault⟩
  | changes hhandle hquery hattached hanswer hchange =>
    exact ⟨[_], rfl, fun journal => .changes hhandle hquery hattached hanswer hchange⟩
  | visited => exact ⟨[], rfl, fun journal => .visited⟩
  | unslotted hslot => exact ⟨[], rfl, fun journal => .unslotted hslot⟩
  | lists => exact ⟨[], rfl, fun journal => .lists⟩
  | closes => exact ⟨[_], rfl, fun journal => .closes⟩
  | rests hrequest => exact ⟨[], rfl, fun journal => .rests hrequest⟩
  | stalls hrequest hallowed => exact ⟨[], rfl, fun journal => .stalls hrequest hallowed⟩
  | givesUp hrequest hallowed => exact ⟨[_], rfl, fun journal => .givesUp hrequest hallowed⟩
  | follows hrequest hallowed => exact ⟨[], rfl, fun journal => .follows hrequest hallowed⟩

/-- A sweep goes the same way with another journal before it, and adds the same. -/
theorem Stage.Reaches.with_journal (h : stage.Reaches engine next after) :
    ∃ added, after.journal = added ++ engine.journal ∧
      ∀ journal,
        stage.Reaches { engine with journal } next { after with journal := added ++ journal } := by
  induction h with
  | refl stage engine => exact ⟨[], rfl, fun journal => .refl _ _⟩
  | step hstep hrest ih =>
    obtain ⟨first, hfirst, hsteps⟩ := hstep.with_journal
    obtain ⟨added, hadded, hreaches⟩ := ih
    refine ⟨added ++ first, by rw [hadded, hfirst, List.append_assoc], fun journal => ?_⟩
    rw [List.append_assoc]
    exact .step (hsteps journal) (hreaches (first ++ journal))

/-- A stage calls the same listener with another journal. -/
theorem Stage.Calls.with_journal {turn : Turn} {listener : Listener}
    (h : stage.Calls engine turn listener) (journal : Journal) :
    stage.Calls { engine with journal } turn listener := by
  cases h with
  | slot hslot => exact .slot hslot
  | listed => exact .listed

/-- When the listener that was called fails, all goes on as when it returns, but for one record. -/
def GoesOnWith (session : EngineSession) (fault : Fault) (record : LogRecord) : Prop :=
  let failed := session.step perform (.answer (.error fault))
  let returned := session.step perform (.answer (.ok ()))
  failed.waiting = returned.waiting ∧ failed.history.head? = returned.history.head? ∧
    ∃ added, returned.state.journal = added ++ session.state.journal ∧
      failed.state =
        { returned.state with journal := added ++ .record record :: session.state.journal }

/-- The reply of a listener takes its sweep on. -/
theorem step_answer_telling {session : EngineSession} {turn : Turn}
    (h : session.waiting = (Suspension.telling turn answer :: rest).map Suspension.resume)
    (reply : Except Fault Unit) :
    session.step perform (.answer reply) =
      (Session.note { session with waiting := rest.map Suspension.resume } (.answered reply)).advance
        (turn.continued.operation answer (turn.hear reply session.state)) := by
  rw [Session.step, h]
  rfl

/-- A suspended dispatch goes on when its listener fails as when it returns. -/
theorem Stands.goesOnWith {session : EngineSession} {turn : Turn}
    (h : Stands session (.telling turn answer :: rest)) (fault : Fault) :
    GoesOnWith session fault (turn.failure fault) := by
  -- with the record as without it, the sweep comes to the same stop
  obtain ⟨stop, last, hreaches, hstops⟩ := turn.continued.halts session.state
  obtain ⟨added, hadded, hanew⟩ := hreaches.with_journal
  have hreturned : turn.continued.operation answer (turn.hear (.ok ()) session.state) =
      stop.operation answer last := hreaches.operation_eq answer
  have hfailed : turn.continued.operation answer (turn.hear (.error fault) session.state) =
      stop.operation answer
        { last with journal := added ++ .record (turn.failure fault) :: session.state.journal } :=
    (hanew (.record (turn.failure fault) :: session.state.journal)).operation_eq answer
  rw [GoesOnWith, step_answer_telling h.waits, step_answer_telling h.waits, hreturned, hfailed]
  cases hstops with
  | ended outcome =>
    rw [operation_closing, operation_closing]
    exact ⟨rfl, rfl, .sweepEnded :: added, congrArg _ hadded, rfl⟩
  | calls hcalls =>
    rw [hcalls.operation_eq, (hcalls.with_journal _).operation_eq]
    exact ⟨rfl, rfl, .called _ :: .told _ _ _ :: added, congrArg (_ :: _ :: ·) hadded, rfl⟩

/-- A fault that is not of a listener: a member of the viewport's size is no number, or the limit of
the settings cannot be compared. -/
def IsOwnFault (engine : Engine) (fault : Fault) : Prop :=
  (∃ size, engine.providedSize = .ok size ∧ Misread size fault) ∨
    engine.followUps = .incomparable ∧ fault = .wrongKind

/-- A sweep that fails does so by a fault of its own, not by that of a listener. -/
theorem Stage.Step.isOwnFault {fault : Fault} (hstep : stage.Step engine (.closing (.error fault)) after)
    (hfits : stage.Fits engine) (hfiled : engine.IsFiled) : IsOwnFault after fault := by
  cases hstep with
  | misread hsize hfault => exact .inl ⟨_, hsize, hfault⟩
  | fails hhandle hquery hattached hfault =>
    obtain ⟨isMatch, hanswer⟩ := hfiled.evaluate_isOk hhandle hquery _
    cases hanswer.symm.trans hfault
  | @stalls round engine hrequest hallowed =>
    have hlimit := hfits.limit
    rw [hallowed] at hlimit
    exact .inr ⟨incomparable_of_furtherPasses hlimit.symm, rfl⟩

/-- A sweep that begins, or goes on, ends with no fault of a listener. -/
theorem Arrives.isOwnFault {fault : Fault}
    (harrives : Arrives (.sweeps stage answer rest) engine (.ended (.error fault)) now after)
    (hfits : stage.Fits engine) (hfiled : engine.IsFiled)
    (hstart : ∀ outcome, stage ≠ .closing outcome) : IsOwnFault after fault := by
  have hreached : ∀ {stop last}, stage.Reaches engine stop last →
      (stop.Fits last ∧ last.IsFiled) ∧ ∀ fault, stop = .closing (.error fault) →
        IsOwnFault last fault := by
    intro stop last hreaches
    apply hreaches.induct _ ⟨⟨hfits, hfiled⟩, fun fault hclosing => absurd hclosing (hstart _)⟩
    rintro stage next engine after hstep ⟨⟨hfits, hfiled⟩, -⟩
    refine ⟨⟨hstep.fits hfiled hfits, hfiled.step hstep⟩, ?_⟩
    rintro fault rfl
    exact hstep.isOwnFault hfits hfiled
  generalize hended : (Happening.ended (.error fault) : Event) = event at harrives
  cases harrives with
  | @ends stage answer waiting engine after outcome hreaches =>
    cases outcome with
    | ok result => cases hended
    | error other =>
      cases hended
      have hlast := (hreached hreaches).2 fault rfl
      exact hlast
  | calls hreaches hcalls => cases hended

/-- After a call the sweep does not end at once. -/
theorem Turn.continued_ne_closing (turn : Turn) (outcome : Except Fault Unit) :
    turn.continued ≠ .closing outcome := by
  cases turn <;> exact Stage.noConfusion

/-- A sweep begins, or goes on, with a stage that is not the last. -/
theorem HostStep.not_closing (hhost : HostStep move waiting engine (.sweeps stage answer rest) after)
    (outcome : Except Fault Unit) : stage ≠ .closing outcome := by
  cases hhost with
  | beginsSweep hprompts hfree => exact Stage.noConfusion
  | hears => exact Turn.continued_ne_closing _ outcome

/-- The request may begin a sweep. -/
def Request.Sweeps : Request → Prop
  | .setOverrides _ | .flush _ => True
  | _ => False

/-- A request for a sweep ends with no fault of a listener, unless it is refused. -/
theorem Stands.isOwnFault_begin {session : EngineSession} {request : Request} {fault : Fault}
    (h : Stands session waiting) (hsweeps : request.Sweeps)
    (hended : (session.step perform (.begin request)).history.head? = some (.ended (.error fault))) :
    IsOwnFault (session.step perform (.begin request)).state fault ∨
      session.state.Declines request fault := by
  rcases h.step (.begin request) with ⟨-, ⟨reply, hnone⟩, -⟩ | ⟨event, now, hleads, -, hhistory⟩
  · cases hnone
  · rw [hhistory, List.head?_cons] at hended
    cases hended
    generalize (session.step perform (.begin request)).state = last at hleads
    obtain ⟨outset, middle, hhost, harrives⟩ := hleads
    cases outset with
    | rests event rest =>
      cases harrives
      generalize hevent : (Happening.ended (.error fault) : Event) = event at hhost
      cases hhost with
      | asks hasks => exact hsweeps.elim
      | declines hfault =>
        cases hevent
        exact .inr (.overrides hfault)
      | _ => cases hevent
    | sweeps stage answer rest =>
      obtain ⟨-, hfits⟩ := hhost.fits h.poised
      left
      exact harrives.isOwnFault hfits (h.filed.hostStep hhost) hhost.not_closing

/-- A sweep whose listener returns, or fails, ends with no fault of a listener. -/
theorem Stands.isOwnFault_answer {session : EngineSession} {turn : Turn} {fault : Fault}
    (h : Stands session (.telling turn answer :: rest)) (reply : Except Fault Unit)
    (hended : (session.step perform (.answer reply)).history.head? = some (.ended (.error fault))) :
    IsOwnFault (session.step perform (.answer reply)).state fault := by
  rcases h.step (.answer reply) with ⟨hnone, -, -⟩ | ⟨event, now, hleads, -, hhistory⟩
  · cases hnone
  · rw [hhistory, List.head?_cons] at hended
    cases hended
    obtain ⟨outset, middle, hhost, harrives⟩ := hleads
    have hfiled := h.filed.hostStep hhost
    cases hhost with
    | hears =>
      exact harrives.isOwnFault (HostStep.fits .hears h.poised).2 hfiled turn.continued_ne_closing

/-! ## The order of visits -/

/-- The handles that a tour has still to visit come in order, after those whose dispatches have begun
in its pass. -/
structure IsAhead (rest : List Nat) (engine : Engine) : Prop where
  ordered : rest.Pairwise (· < ·)
  later : ∀ number ∈ dispatched engine.journal, ∀ other ∈ rest, number < other

/-- The handles that a stage has still to visit in its pass. -/
def Stage.unvisited : Stage → List Nat
  | .visiting _ rest => rest
  | .opening announcement | .listing announcement | .telling announcement _ => announcement.rest
  | .starting _ | .passed _ | .closing _ => []

/-- Handles are registered in the order of their numbers, and visited in this order. -/
structure IsOrdered (stage : Stage) (engine : Engine) : Prop where
  registered : engine.registered.Pairwise (· < ·)
  dispatched : (dispatched engine.journal).Pairwise (· > ·)
  ahead : IsAhead stage.unvisited engine

/-- Where nothing is left to visit, all that is left is ahead. -/
theorem isAhead_nil (engine : Engine) : IsAhead [] engine :=
  ⟨List.Pairwise.nil, fun _ _ _ hnone => by cases hnone⟩

/-- The order is kept by what changes neither the registry nor the dispatches of the pass. -/
theorem IsOrdered.of_eq {rest : List Nat} (h : IsOrdered stage engine)
    (hregistered : after.registered = engine.registered)
    (hdispatched : Journal.dispatched after.journal = Journal.dispatched engine.journal)
    (hrest : next.unvisited = rest) (hahead : IsAhead rest engine) : IsOrdered next after := by
  refine ⟨hregistered ▸ h.registered, hdispatched ▸ h.dispatched, ?_⟩
  rw [hrest]
  exact ⟨hahead.ordered, hdispatched ▸ hahead.later⟩

/-- A step of the sweep keeps to the order. -/
theorem IsOrdered.step (h : IsOrdered stage engine) (hstep : stage.Step engine next after) :
    IsOrdered next after := by
  have hsame : ∀ {rest : List Nat}, after.registered = engine.registered →
      Journal.dispatched after.journal = Journal.dispatched engine.journal → next.unvisited = rest →
        IsAhead rest engine → IsOrdered next after := h.of_eq
  cases hstep with
  | @unreadable round engine fault hsize =>
    exact ⟨h.registered, List.Pairwise.nil, isAhead_nil _⟩
  | misread hsize hfault => exact ⟨h.registered, List.Pairwise.nil, isAhead_nil _⟩
  | @reads round engine width height hsize =>
    have hnone : Journal.dispatched (engine.beginPass.noteRecords engine.hostRecords).journal = [] :=
      Adds.keeps Journal.dispatched dispatched_minor
        (Quiet.of_plain (.noteRecords engine.beginPass fun _ => level_hostRecords)).journal
    refine ⟨h.registered, ?_, h.registered, ?_⟩
    · rw [hnone]
      exact List.Pairwise.nil
    · rw [hnone]
      simp
  | @skips tour number rest engine hkept =>
    obtain ⟨-, hrest⟩ := List.pairwise_cons.1 h.ahead.ordered
    exact hsame rfl rfl rfl ⟨hrest, fun other hother later hlater =>
      h.ahead.later other hother later (List.mem_cons_of_mem _ hlater)⟩
  | fails hhandle hquery hattached hfault => exact hsame rfl rfl rfl (isAhead_nil _)
  | @changes tour number rest engine handle query isMatch hhandle hquery hattached hanswer hchange =>
    obtain ⟨hnext, hrest⟩ := List.pairwise_cons.1 h.ahead.ordered
    refine ⟨h.registered, ?_, hrest, ?_⟩
    -- the handle was the first of those to be visited, and comes after all that were
    · refine List.pairwise_cons.2 ⟨?_, h.dispatched⟩
      intro other hother
      exact h.ahead.later other hother number List.mem_cons_self
    · intro other hother later hlater
      rcases List.mem_cons.1 hother with rfl | hother
      · exact hnext later hlater
      · exact h.ahead.later other hother later (List.mem_cons_of_mem _ hlater)
  | visited => exact hsame rfl rfl rfl (isAhead_nil _)
  | unslotted hslot => exact hsame rfl rfl rfl h.ahead
  | lists => exact hsame rfl rfl rfl h.ahead
  | closes => exact hsame rfl rfl rfl h.ahead
  | rests hrequest => exact hsame rfl rfl rfl (isAhead_nil _)
  | stalls hrequest hallowed => exact hsame rfl rfl rfl (isAhead_nil _)
  | givesUp hrequest hallowed => exact hsame rfl rfl rfl (isAhead_nil _)
  | follows hrequest hallowed => exact hsame rfl rfl rfl (isAhead_nil _)

/-- A handle is registered after those that are. -/
theorem Refiles.registered_pairwise (h : Refiles move engine after) (hfiled : engine.IsFiled)
    (hordered : engine.registered.Pairwise (· < ·)) : after.registered.Pairwise (· < ·) := by
  cases h with
  | drops hsame =>
    rw [registered, hsame.registry]
    exact List.Pairwise.nil
  | @asks request query found engine asked last after hasked hdone hsame =>
    have hplain := plain_asked hasked
    have hregistry : asked.registry = engine.registry := by rw [hplain.same]
    rw [registered, hsame.registry]
    rcases entries_asks hdone with ⟨known, -, -, hkept⟩ | ⟨fault, -, hkept⟩ | ⟨-, hmade⟩
    · rw [hkept, hregistry]
      exact hordered
    · rw [hkept, hregistry]
      exact hordered
    · rw [hmade, hregistry, List.map_append, List.pairwise_append]
      refine ⟨hordered, List.pairwise_singleton _ _, ?_⟩
      intro number hnumber other hother
      obtain ⟨⟨media, registered⟩, hentry, rfl⟩ := List.mem_map.1 hnumber
      cases List.mem_singleton.1 hother
      rw [← hregistry] at hentry
      obtain ⟨handle, hhandle, -⟩ := (hfiled.plain hplain).registry media registered hentry
      exact (List.getElem?_eq_some_iff.1 hhandle).1
  | leaves hkept hsilent hsame =>
    rw [registered, hsame.registry]
    exact hordered

/-- Before a sweep goes on no dispatch begins. -/
theorem HostStep.dispatched_eq {outset : Outset} (h : HostStep move waiting engine outset after) :
    dispatched after.journal = dispatched engine.journal := by
  cases outset with
  | rests event rest => exact Adds.keeps dispatched dispatched_minor (Quiet.of_hostStep h).journal
  | sweeps stage answer rest =>
    cases h with
    | beginsSweep hprompts hfree =>
      have hprompted :=
        Adds.keeps dispatched dispatched_minor (Quiet.of_plain (.of_prompts hprompts)).journal
      exact hprompted
    | hears =>
      exact Adds.keeps dispatched dispatched_minor (Quiet.of_plain (.hear _ _ engine)).journal

/-- While the host has control the order is kept, also by the dispatch that is suspended. -/
structure KeepsOrder (waiting : List Suspension) (engine : Engine) : Prop where
  registered : engine.registered.Pairwise (· < ·)
  dispatched : (dispatched engine.journal).Pairwise (· > ·)
  ahead : ∀ turn ∈ turns waiting, IsAhead turn.continued.unvisited engine

/-- What is left to visit is ahead as long as no dispatch begins. -/
theorem IsAhead.of_dispatched {rest : List Nat} (h : IsAhead rest engine)
    (hsame : Journal.dispatched after.journal = Journal.dispatched engine.journal) :
    IsAhead rest after :=
  ⟨h.ordered, hsame ▸ h.later⟩

/-- A sweep that begins, or goes on, keeps to the order. -/
theorem KeepsOrder.sweeps (h : KeepsOrder waiting engine) (hfiled : engine.IsFiled)
    (hhost : HostStep move waiting engine (.sweeps stage answer rest) after) :
    IsOrdered stage after where
  registered := hhost.refiles.registered_pairwise hfiled h.registered
  dispatched := hhost.dispatched_eq ▸ h.dispatched
  ahead := by
    have hsame := hhost.dispatched_eq
    cases hhost with
    | beginsSweep hprompts hfree => exact isAhead_nil _
    | hears => exact (h.ahead _ List.mem_cons_self).of_dispatched hsame

/-- Every move of the host keeps the order. -/
theorem KeepsOrder.leads (h : KeepsOrder waiting engine) (hfiled : engine.IsFiled)
    (hpoised : Poised waiting engine) (hleads : Leads move waiting engine event now after) :
    KeepsOrder now after := by
  refine hleads.keeps (fun _ => IsOrdered) KeepsOrder ?_ ?_ ?_ ?_ ?_ hfiled hpoised
  · intro event rest middle hhost
    refine ⟨hhost.refiles.registered_pairwise hfiled h.registered,
      hhost.dispatched_eq ▸ h.dispatched, ?_⟩
    intro turn hturn
    rw [hhost.turns_eq] at hturn
    exact (h.ahead turn hturn).of_dispatched hhost.dispatched_eq
  · exact fun hhost => h.sweeps hfiled hhost
  · exact fun _ _ hstep hordered => hordered.step hstep
  · intro rest outcome last hnone _ hordered
    exact ⟨hordered.registered, hordered.dispatched, by simp [hnone]⟩
  · intro rest answer stop turn listener last hnone _ hcalls hordered
    refine ⟨hordered.registered, hordered.dispatched, ?_⟩
    rw [turns_telling hnone turn answer, List.forall_mem_singleton]
    cases hcalls <;> exact hordered.ahead.of_dispatched rfl

/-- At every moment the handles are registered in order, and were dispatched in order in their
pass. -/
theorem keepsOrder_sessionAfter (options : EngineOptions)
    (moves : List (Move Request (Except Fault Unit))) :
    (sessionAfter options moves).state.registered.Pairwise (· < ·) ∧
      (dispatched (sessionAfter options moves).state.journal).Pairwise (· > ·) := by
  have hnew : KeepsOrder [] (create options) := by
    refine ⟨List.Pairwise.nil, ?_, by simp [turns]⟩
    have hnone : dispatched (create options).journal = [] :=
      Adds.keeps dispatched dispatched_minor (adds_create options)
    rw [hnone]
    exact List.Pairwise.nil
  obtain ⟨now, -, hkept⟩ := (stands_new options).run KeepsOrder
    (fun hfiled hpoised hleads hkept => hkept.leads hfiled hpoised hleads) hnew moves
  exact ⟨hkept.registered, hkept.dispatched⟩

/-! ## Changes of answers -/

/-- What a journal tells of an answer changes only with a dispatch. -/
theorem dispatchBegan_of_answer_ne {number : Nat} {before after : Bool} {added older : Journal}
    (hbefore : Journal.Tells number older (some before))
    (hafter : Journal.Tells number (added ++ older) (some after)) (hchange : after ≠ before) :
    ∃ isMatch recent, .dispatchBegan number isMatch :: recent <:+ added ++ older ∧
      older <:+ recent := by
  obtain ⟨⟨first, hfirst⟩, -, hold⟩ := hbefore
  obtain ⟨⟨same, hsame⟩, -, hnew⟩ := hafter
  -- the handle was made before, so that it is not made again
  have hnone : madeWith number added = [] := by
    have hlength := congrArg List.length hsame
    rw [madeWith_append, hfirst, List.length_append, List.length_singleton, List.length_singleton,
      Nat.add_eq_right] at hlength
    exact List.eq_nil_of_length_eq_zero hlength
  have hchanges : changes number added ≠ [] := by
    intro hunchanged
    rw [answers, changes_append, madeWith_append, hunchanged, hnone, List.nil_append,
      List.nil_append, ← answers, hold, Option.some_inj] at hnew
    exact hchange hnew.symm
  obtain ⟨isMatch, hmember⟩ := List.exists_mem_of_ne_nil _ hchanges
  obtain ⟨later, earlier, rfl⟩ := List.append_of_mem (mem_changes.1 hmember)
  refine ⟨isMatch, earlier ++ older, ?_, List.suffix_append _ _⟩
  rw [List.append_assoc, List.cons_append]
  exact List.suffix_append _ _

/-- An engine is faithful at every moment of a session. -/
theorem faithful_sessionAfter (options : EngineOptions)
    (moves : List (Move Request (Except Fault Unit))) :
    (sessionAfter options moves).state.Faithful := by
  have hnew : faithfulness.Valid (Engine.create options) :=
    ⟨Faithful.create options, fun _ => (goesOn_create options).openDispatch⟩
  have hobeys := requestRules_faithfulness.obeys hnew
    fun move (_ : move ∈ moves) => move.begins_of_forall fun _ => trivial
  exact hobeys.valid.1

/-- A handle has another answer after some entries only if its dispatch has begun with one of them. -/
theorem Faithful.dispatchBegan {number : Nat} {handle later : Handle} (hbefore : engine.Faithful)
    (hafter : after.Faithful) (hgrows : engine.journal <:+ after.journal)
    (hhandle : engine.handle? number = some handle) (hlater : after.handle? number = some later)
    (hchange : later.isMatch ≠ handle.isMatch) :
    ∃ isMatch older, .dispatchBegan number isMatch :: older <:+ after.journal ∧
      ¬ .dispatchBegan number isMatch :: older <:+ engine.journal := by
  have hold := hbefore.tells number
  have hnew := hafter.tells number
  obtain ⟨added, hjournal⟩ := hgrows
  rw [present, hhandle] at hold
  rw [present, hlater, ← hjournal] at hnew
  obtain ⟨isMatch, older, hbegan, hsince⟩ := dispatchBegan_of_answer_ne hold hnew hchange
  refine ⟨isMatch, older, hjournal ▸ hbegan, ?_⟩
  intro hearlier
  have hshorter := hearlier.length_le.trans hsince.length_le
  rw [List.length_cons] at hshorter
  exact Nat.not_succ_le_self _ hshorter

/-! ## At every moment -/

/-- The host has just been given a call of a listener who was told of an event of a handle. -/
def Tells (session : EngineSession) (number : Nat) (event : ChangeEvent) (listener : Listener)
    (older : Journal) : Prop :=
  lastCall session = some (callbackFor number event listener) ∧
    session.state.journal =
      .called (callbackFor number event listener) :: .told number event listener :: older

/-- Whatever the listener that was called does before it returns or fails: its failure is only
recorded, and does not come back to the host that asked for the sweep. -/
structure IsContained (session : EngineSession) (event : ChangeEvent) : Prop where
  recorded : ∃ role ∈ (["onchange", "listener"] : List Text), ∀ moves fault,
    Within session.waiting.length session moves →
      GoesOnWith (session.run perform moves) fault
        ⟨.error, .engine, "Error in media query " ++ role ++ " for " ++ Text.quoted event.media,
          some fault⟩
  withheld : ∀ moves reply fault, Within session.waiting.length session moves →
    let returned := (session.run perform moves).step perform (.answer reply)
    returned.history.head? = some (.ended (.error fault)) → IsOwnFault returned.state fault

/-- A suspended dispatch contains the failure of its listener. -/
theorem Stands.isContained {session : EngineSession} {turn : Turn}
    (h : Stands session (.telling turn answer :: rest)) :
    IsContained session turn.announcement.event := by
  have hreturned : ∀ moves, Within session.waiting.length session moves →
      Stands (session.run perform moves) (.telling turn answer :: rest) := by
    intro moves hwithin
    have hall : Stands session ([] ++ .telling turn answer :: rest) := h
    rw [h.length_waiting] at hwithin
    exact (hall.within hwithin).1
  constructor
  · refine ⟨turn.role, ?_, fun moves fault hwithin => (hreturned moves hwithin).goesOnWith fault⟩
    cases turn <;> simp [Turn.role]
  · exact fun moves reply fault hwithin hended =>
      (hreturned moves hwithin).isOwnFault_answer reply hended

/-- A call of a listener who was told of an event suspends a dispatch of this event. -/
theorem Leads.telling_of_called {callback called : Callback} {number : Nat} {told : ChangeEvent}
    {listener : Listener} {older : Journal}
    (hleads : Leads move waiting engine (.called callback) now after)
    (hregular : IsRegular waiting engine)
    (hjournal : after.journal = .called called :: .told number told listener :: older) :
    ∃ turn answer rest, now = .telling turn answer :: rest ∧ turn.announcement.event = told := by
  obtain ⟨outset, middle, hhost, harrives⟩ := hleads
  generalize hevent : (.called callback : Event) = event at harrives
  cases harrives with
  | rests =>
    subst hevent
    exact absurd hjournal (hhost.ne_told hregular called number told listener older)
  | ends hreaches => cases hevent
  | calls hreaches hcalls =>
    refine ⟨_, _, _, rfl, ?_⟩
    have htold := (List.cons.inj (List.cons.inj hjournal).2).1
    cases htold
    rfl

/-- The dispatch that is suspended is the open one. -/
theorem Poised.openDispatch {turn : Turn} (h : Poised (.telling turn answer :: rest) engine) :
    openDispatch engine.journal = some turn.announcement.number := by
  have hturns : turns (.telling turn answer :: rest) = turn :: turns rest := rfl
  cases h with
  | free hnone hfree => cases hturns.symm.trans hnone
  | suspended hone hfits =>
    obtain ⟨rfl, -⟩ := List.cons.inj (hturns.symm.trans hone)
    exact Turn.openDispatch hfits

/-- How a session dispatches events, whatever move comes next. -/
structure DispatchesInOrder (session : EngineSession) : Prop where
  /-- A handle whose answer changes has begun a dispatch. -/
  changes : ∀ move number handle later, session.state.handle? number = some handle →
    (session.step perform move).state.handle? number = some later →
      later.isMatch ≠ handle.isMatch → ∃ isMatch older,
        .dispatchBegan number isMatch :: older <:+ (session.step perform move).state.journal ∧
          ¬ .dispatchBegan number isMatch :: older <:+ session.state.journal
  /-- Whoever listens to a handle that has begun a dispatch is told in order. -/
  flips : ∀ move number isMatch older,
    ¬ .dispatchBegan number isMatch :: older <:+ session.state.journal →
      .dispatchBegan number isMatch :: older <:+ (session.step perform move).state.journal →
        TellsFlip number isMatch (.dispatchBegan number isMatch :: older) (session.step perform move)
  /-- A move tells no one, or ends with the call of the one listener that it tells. -/
  calls : ∀ move, let after := session.step perform move
    Adds Entry.IsUntold session.state.journal after.state.journal ∨
      ∃ number event listener older, Tells after number event listener older ∧
        openDispatch older = some number ∧ Adds Entry.IsUntold session.state.journal older
  /-- The failure of a listener is recorded and nothing else. -/
  contained : ∀ number event listener older, Tells session number event listener older →
    IsContained session event
  withheld : ∀ request fault, request.Sweeps →
    let after := session.step perform (.begin request)
    after.history.head? = some (.ended (.error fault)) →
      IsOwnFault after.state fault ∨ session.state.Declines request fault
  registered : session.state.registered.Pairwise (· < ·)
  dispatched : (dispatched session.state.journal).Pairwise (· > ·)
  listeners : ActsAsSet session

/-- A move of the host tells no one, or tells someone last, of an event of the handle whose dispatch
is open. -/
theorem Stands.calls {session : EngineSession} (h : Stands session waiting) :
    let after := session.step perform move
    Adds Entry.IsUntold session.state.journal after.state.journal ∨
      ∃ number event listener older, Tells after number event listener older ∧
        openDispatch older = some number ∧ Adds Entry.IsUntold session.state.journal older := by
  rcases h.step move with ⟨-, -, hsame⟩ | ⟨event, now, hleads, hstands, hhistory⟩
  · left
    rw [hsame]
    exact Adds.refl _ _
  · rcases hleads.tells with hnone | ⟨turn, answer, rest, listener, older, rfl, rfl, hjournal, hadds⟩
    · exact .inl hnone
    · right
      refine ⟨_, _, listener, older, ⟨?_, hjournal⟩, ?_, hadds⟩
      · rw [lastCall, hhistory]
        rfl
      · have hopen := hstands.poised.openDispatch
        rw [hjournal] at hopen
        exact hopen

/-- At every moment events are dispatched in order, and the failures of listeners are contained. -/
theorem dispatchesInOrder_sessionAfter (options : EngineOptions)
    (moves : List (Move Request (Except Fault Unit))) :
    DispatchesInOrder (sessionAfter options moves) := by
  obtain ⟨waiting, hstands⟩ := stands_sessionAfter options moves
  obtain ⟨hregistered, hdispatched⟩ := keepsOrder_sessionAfter options moves
  refine ⟨?changes, fun move number isMatch older => hstands.flips, fun move => hstands.calls, ?contained,
    fun request fault => hstands.isOwnFault_begin, hregistered, hdispatched,
    actsAsSet (isDistinct_sessionAfter options moves)⟩
  case changes =>
    intro move number handle later
    have hafter := faithful_sessionAfter options (moves ++ [move])
    rw [sessionAfter_concat] at hafter
    refine (faithful_sessionAfter options moves).dispatchBegan hafter ?_
    rcases hstands.calls with ⟨added, -, hjournal⟩ | ⟨_, _, _, _, ⟨-, hjournal⟩, -, added, -, holder⟩
    · exact ⟨added, hjournal.symm⟩
    · rw [hjournal, holder]
      exact (List.suffix_append added _).trans (List.suffix_append [_, _] _)
  case contained =>
    rintro number event listener older ⟨hcalled, hjournal⟩
    have hlast := (stands_new options).run_last IsRegular (fun _ => True)
      (fun _ hfiled hpoised hleads hregular => hregular.leads hfiled hpoised hleads)
      (isRegular_create options) fun move (_ : move ∈ moves) => trivial
    rcases hlast with hsame | ⟨move, earlier, engine, event, now, -, -, hregular, -, hleads, hnow, hhead⟩
    · rw [sessionAfter, hsame] at hcalled
      cases hcalled
    · cases hhead.symm.trans (head?_of_lastCall hcalled)
      obtain ⟨turn, answer, rest, rfl, rfl⟩ := hleads.telling_of_called hregular hjournal
      exact hnow.isContained

end Engine

end Breakpoint
