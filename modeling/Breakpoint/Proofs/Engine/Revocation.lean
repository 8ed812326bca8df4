import Breakpoint.Proofs.Engine.Regularity

/-!
# Listeners that were taken away

A listener that was removed, whose binding has ended or whose engine was destroyed is not told of
any event whose dispatch begins later. A dispatch goes on with the listeners that it has looked up,
though: one that was under way then tells a listener once more, also when another listener of the
same event has taken it away.
-/

namespace Breakpoint.Engine

open Journal

variable {engine after : Engine} {waiting now : List Suspension}
  {move : Move Request (Except Fault Unit)} {event : Event} {outset : Outset} {stage next : Stage}

/-! ## Revocations -/

/-- The host has the listener at hand: it is a function of its own, or passes on to a receiver what
a handle tells its binding. -/
def Knows (engine : Engine) : Listener → Prop
  | .named _ => True
  | .bound binding receiver =>
    ∃ number, engine.bindings[binding]? = some { receiver, handle := some number }

/-- The request takes a listener away from a handle. -/
def Revokes (engine : Engine) (number : Nat) (listener : Listener) : Request → Prop
  | .removeListener handle removed =>
    handle = number ∧ removed = some listener ∧ engine.Knows listener
  | .removeEventListener handle type removed =>
    handle = number ∧ type = changeType ∧ removed = some listener ∧ engine.Knows listener
  | .unbind binding => ∃ receiver, listener = .bound binding receiver ∧
    engine.bindings[binding]? = some { receiver, handle := some number }
  | .destroy => ∃ handle, engine.handle? number = some handle
  | _ => False

/-- A listener was taken away from a handle when the journal was this far, until it is added again
or for good. -/
structure Revocation where
  number : Nat
  listener : Listener
  journal : Journal
  isFinal : Bool

namespace Revocation

/-- The handle was in the middle of a dispatch when the listener was taken away, still is, and has
not told the listener of any event meanwhile. -/
def Leftover (revocation : Revocation) (journal : Journal) : Prop :=
  ∃ recent, journal = recent ++ revocation.journal ∧
    openDispatch revocation.journal = some revocation.number ∧
    .dispatchEnded revocation.number ∉ recent ∧
    ∀ event, .told revocation.number event revocation.listener ∉ recent

/-- What a stage may still tell the listener. -/
def Clears (revocation : Revocation) : Stage → Engine → Prop
  | .opening announcement, _ =>
    announcement.number = revocation.number → revocation.isFinal = false
  | .listing announcement, engine =>
    announcement.number = revocation.number →
      revocation.isFinal = false ∨ revocation.Leftover engine.journal
  | .telling announcement left, engine =>
    announcement.number = revocation.number → revocation.listener ∈ left →
      revocation.Leftover engine.journal
  | _, _ => True

/-- The listener is not there, and is not about to come back. -/
structure IsAbsent (revocation : Revocation) (waiting : List Suspension) (engine : Engine) :
    Prop where
  absent : revocation.listener ∉ engine.listeners revocation.number
  joined : ∀ binding receiver, revocation.listener = .bound binding receiver →
    binding < engine.bindings.length ∧ binding ∉ pledges waiting

/-- The listener is taken away: it is not there, or the handle tells no one any more. -/
def Persists (revocation : Revocation) (waiting : List Suspension) (engine : Engine) : Prop :=
  match revocation.isFinal with
  | false => revocation.IsAbsent waiting engine
  | true => engine.IsDetached revocation.number

variable {revocation : Revocation}

/-- A listener stays left over until it is told or the dispatch ends. -/
theorem Leftover.add {journal added : Journal} (h : revocation.Leftover journal)
    (hended : .dispatchEnded revocation.number ∉ added)
    (htold : ∀ event, .told revocation.number event revocation.listener ∉ added) :
    revocation.Leftover (added ++ journal) := by
  obtain ⟨recent, rfl, hopen, hstill, hnone⟩ := h
  refine ⟨added ++ recent, by rw [List.append_assoc], hopen, ?_, ?_⟩
  · simp [hended, hstill]
  · intro event
    simp [htold, hnone]

/-- Minor entries leave a listener left over. -/
theorem Leftover.adds {before after : Journal} (h : revocation.Leftover before)
    (hadds : Adds Entry.IsMinor before after) : revocation.Leftover after := by
  obtain ⟨added, hminor, rfl⟩ := hadds
  exact h.add (fun hended => hminor _ hended) fun _ htold => hminor _ htold

/-- A listener that is not there, and that the host does not add, stays away. -/
theorem IsAbsent.hostStep (h : revocation.IsAbsent waiting engine)
    (hallowed : move.Begins (¬ Grants revocation.number revocation.listener ·))
    (hhost : HostStep move waiting engine outset after) :
    revocation.IsAbsent outset.waiting after := by
  obtain ⟨hlength, hpledges⟩ := hhost.bindings
  constructor
  · intro hmember
    rcases hhost.gains.mem hmember with hold | ⟨request, rfl, hgrants⟩ | ⟨binding, receiver, hbound, hjoining⟩
    · exact h.absent hold
    · exact hallowed hgrants
    · apply (h.joined binding receiver hbound).2
      exact List.mem_filterMap.2 ⟨_, hjoining, rfl⟩
  · intro binding receiver hbound
    obtain ⟨hold, hunpledged⟩ := h.joined binding receiver hbound
    refine ⟨Nat.lt_of_lt_of_le hold hlength, ?_⟩
    intro hpledged
    rcases hpledges binding hpledged with hpledged | hnew
    · exact hunpledged hpledged
    · exact absurd hold (Nat.not_lt.2 hnew)

/-- What was taken away stays away. -/
theorem Persists.hostStep (h : revocation.Persists waiting engine)
    (hallowed : revocation.isFinal = false →
      move.Begins (¬ Grants revocation.number revocation.listener ·))
    (hhost : HostStep move waiting engine outset after) :
    revocation.Persists outset.waiting after := by
  rw [Persists] at h ⊢
  split at h
  · next hopen => exact h.hostStep (hallowed hopen) hhost
  · exact hhost.isDetached h

/-- A listener that was taken away stays away through every step of a sweep. -/
theorem Persists.step (h : revocation.Persists waiting engine)
    (hstep : stage.Step engine next after) : revocation.Persists waiting after := by
  rw [Persists] at h ⊢
  split at h
  · refine ⟨hstep.listeners_eq revocation.number ▸ h.absent, ?_⟩
    rw [hstep.bindings_eq]
    exact h.joined
  · exact hstep.isDetached h

/-- A listener that was taken away stays away while neither pledges, handles nor bindings change. -/
theorem Persists.of_eq {rest : List Suspension} (h : revocation.Persists rest engine)
    (hpledges : pledges now = pledges rest) (hhandles : after.handles = engine.handles)
    (hbindings : after.bindings = engine.bindings) : revocation.Persists now after := by
  rw [Persists] at h ⊢
  split at h
  · refine ⟨listeners_of_handles hhandles revocation.number ▸ h.absent, ?_⟩
    rw [hbindings, hpledges]
    exact h.joined
  · apply h.of_cores
    rw [handle?, hhandles]
    rfl

/-- Without a call a sweep comes only to stages that may tell the listener no more. -/
theorem Clears.step (h : revocation.Clears stage engine) (hpersists : revocation.Persists waiting engine)
    (hstep : stage.Step engine next after) : revocation.Clears next after := by
  cases hstep with
  | @changes tour number rest engine handle query isMatch hhandle hquery hattached hanswer hchange =>
    intro hsame
    cases hfinal : revocation.isFinal with
    | false => rfl
    | true =>
      rw [Persists, hfinal] at hpersists
      obtain ⟨detached, hdetached, hgone⟩ := hpersists
      rw [← hsame, hhandle] at hdetached
      cases hdetached
      cases hgone.symm.trans hattached
  | unslotted hslot => exact fun hsame => .inl (h hsame)
  | lists =>
    intro hsame hmember
    rcases h hsame with hopen | hleftover
    · rw [Persists, hopen] at hpersists
      rw [hsame] at hmember
      exact absurd hmember hpersists.absent
    · exact hleftover
  | _ => trivial

/-- When a listener is called, the sweep goes on with a stage that may tell it no more. -/
theorem Clears.calls {turn : Turn} {listener : Listener} (h : revocation.Clears stage engine)
    (honce : stage.TellsOnce) (hcalls : stage.Calls engine turn listener) :
    revocation.Clears turn.continued (engine.noteTurn turn.announcement listener) := by
  cases hcalls with
  | slot hslot => exact fun hsame => .inl (h hsame)
  | @listed announcement engine listener left =>
    intro hsame hmember
    have hleftover := h hsame (List.mem_cons_of_mem _ hmember)
    show revocation.Leftover ([.called _, .told _ _ listener] ++ engine.journal)
    apply hleftover.add
    · simp
    · intro event
      have hother : listener ≠ revocation.listener := by
        rintro rfl
        exact (List.nodup_cons.1 honce).1 hmember
      simp [hother.symm]

/-- A suspended dispatch may tell the listener no more than before. -/
theorem Clears.quiet {turn : Turn} (h : revocation.Clears turn.continued engine)
    (hquiet : Quiet engine after) : revocation.Clears turn.continued after := by
  cases turn with
  | slot announcement => exact fun hsame => (h hsame).imp_right (·.adds hquiet.journal)
  | listed announcement left => exact fun hsame hmember => (h hsame hmember).adds hquiet.journal

/-- The listener is called only from the slot, or by the dispatch that is left over. -/
theorem Clears.called {turn : Turn} (h : revocation.Clears stage engine)
    (hsame : turn.announcement.number = revocation.number)
    (hcalls : stage.Calls engine turn revocation.listener) :
    (revocation.isFinal = false ∧ engine.slot revocation.number = some revocation.listener) ∨
      revocation.Leftover engine.journal := by
  cases hcalls with
  | slot hslot => exact .inl ⟨h hsame, hsame ▸ hslot⟩
  | listed => exact .inr (h hsame List.mem_cons_self)

/-- What holds of a listener that was taken away: it stays away, and no suspended dispatch tells it
but one that is left over. -/
structure Lasts (revocation : Revocation) (waiting : List Suspension) (engine : Engine) : Prop where
  persists : revocation.Persists waiting engine
  regular : IsRegular waiting engine
  clears : ∀ turn ∈ turns waiting, revocation.Clears turn.continued engine

/-- The same, in the middle of a sweep. -/
structure Passes (revocation : Revocation) (waiting : List Suspension) (stage : Stage)
    (engine : Engine) : Prop where
  persists : revocation.Persists waiting engine
  regular : IsRegular waiting engine
  once : stage.TellsOnce
  clears : revocation.Clears stage engine

/-- A sweep that begins, or goes on, may tell the listener no more than before. -/
theorem Lasts.passes {answer : Answer} (h : revocation.Lasts waiting engine)
    (hallowed : revocation.isFinal = false →
      move.Begins (¬ Grants revocation.number revocation.listener ·))
    (hhost : HostStep move waiting engine (.sweeps stage answer now) after) :
    revocation.Passes now stage after where
  persists := h.persists.hostStep hallowed hhost
  regular := h.regular.hostStep hhost
  once := h.regular.tellsOnce hhost
  clears := by
    cases hhost with
    | beginsSweep hprompts hfree => trivial
    | hears => exact (h.clears _ List.mem_cons_self).quiet (.of_plain (.hear _ _ engine))

/-- If the listener was just told of an event of the handle, then as the one in the slot, before an
end for good, or by the dispatch that is left over. -/
def IsSpared (revocation : Revocation) (engine : Engine) : Prop :=
  ∀ event older, engine.journal =
      .called (callbackFor revocation.number event revocation.listener) ::
        .told revocation.number event revocation.listener :: older →
    (revocation.isFinal = false ∧ engine.slot revocation.number = some revocation.listener) ∨
      revocation.Leftover older

/-- At every stop of a sweep the listener is away, and may be told no more than before. -/
theorem Passes.arrives {answer : Answer} {rest : List Suspension}
    (h : revocation.Passes rest stage engine) (hfits : stage.Fits engine) (hfiled : engine.IsFiled)
    (hnone : turns rest = [])
    (harrives : Arrives (.sweeps stage answer rest) engine event now after) :
    revocation.Lasts now after ∧ revocation.IsSpared after := by
  refine harrives.keeps (fun stage last => revocation.Passes rest stage last)
    (fun now last => revocation.Lasts now last ∧ revocation.IsSpared last) ?_ ?_ ?_ hfits hfiled h
  · rintro stage engine next after - - hstep hpasses
    exact ⟨hpasses.persists.step hstep, hpasses.regular.step hstep,
      hstep.tellsOnce hpasses.regular.distinct, hpasses.clears.step hpasses.persists hstep⟩
  · rintro outcome last - hpasses
    refine ⟨⟨hpasses.persists.of_eq rfl rfl rfl, hpasses.regular.ends, by simp [hnone]⟩, ?_⟩
    rintro event older ⟨⟩
  · rintro stop turn listener last - hcalls hpasses
    have hclears := hpasses.clears.calls hpasses.once hcalls
    refine ⟨⟨hpasses.persists.of_eq rfl rfl rfl, hpasses.regular.calls hpasses.once hcalls, ?_⟩, ?_⟩
    · intro other hother
      rw [turns_telling hnone turn answer] at hother
      cases List.mem_singleton.1 hother
      exact hclears
    · intro event older hjournal
      obtain ⟨htold, hold⟩ := List.cons.inj (List.cons.inj hjournal).2
      obtain ⟨hnumber, -, rfl⟩ := Entry.told.inj htold
      rw [← hold]
      exact hpasses.clears.called hnumber hcalls

/-- After a move the listener is still away, and if the move called it, it was spared. -/
theorem Lasts.leads (h : revocation.Lasts waiting engine) (hfiled : engine.IsFiled)
    (hpoised : Poised waiting engine)
    (hallowed : revocation.isFinal = false →
      move.Begins (¬ Grants revocation.number revocation.listener ·))
    (hleads : Leads move waiting engine event now after) :
    revocation.Lasts now after ∧ ∀ callback, event = .called callback → revocation.IsSpared after := by
  obtain ⟨outset, middle, hhost, harrives⟩ := hleads
  cases outset with
  | rests event rest =>
    cases harrives
    refine ⟨⟨h.persists.hostStep hallowed hhost, h.regular.hostStep hhost, ?_⟩, ?_⟩
    · intro turn hturn
      rw [hhost.turns_eq] at hturn
      exact (h.clears turn hturn).quiet (.of_hostStep hhost)
    · rintro callback rfl event older hjournal
      exact absurd hjournal (hhost.ne_told h.regular _ _ _ _ _)
  | sweeps stage answer rest =>
    obtain ⟨hnone, hfits⟩ := hhost.fits hpoised
    obtain ⟨hlasts, hspared⟩ :=
      (h.passes hallowed hhost).arrives hfits (hfiled.hostStep hhost) hnone harrives
    exact ⟨hlasts, fun _ _ => hspared⟩

end Revocation

/-- A request that takes a listener away changes the engine at once. -/
theorem Revokes.change?_eq {request : Request} {number : Nat} {listener : Listener}
    (h : engine.Revokes number listener request) : ∃ change, request.change? = some change := by
  cases request <;> first | exact ⟨_, rfl⟩ | exact h.elim

/-- Whoever is taken away from an engine that lives on is removed from the listeners. -/
theorem Revokes.change_eq {request : Request} {change : Engine → Engine} {number : Nat}
    {listener : Listener} (h : engine.Revokes number listener request)
    (hchange : request.change? = some change) (hkept : request ≠ .destroy) :
    change engine = engine.unlisten number (some listener) ∧ engine.Knows listener := by
  cases request with
  | removeListener handle removed =>
    cases hchange
    obtain ⟨rfl, rfl, hknown⟩ := h
    exact ⟨rfl, hknown⟩
  | removeEventListener handle type removed =>
    cases hchange
    obtain ⟨rfl, rfl, rfl, hknown⟩ := h
    exact ⟨if_pos rfl, hknown⟩
  | unbind binding =>
    cases hchange
    obtain ⟨receiver, rfl, hbinding⟩ := h
    refine ⟨?_, number, hbinding⟩
    show engine.unbind binding = _
    rw [unbind, hbinding]
    exact if_pos rfl
  | destroy => exact absurd rfl hkept
  | _ => exact h.elim

/-- A listener that was removed is absent. -/
theorem isAbsent_unlisten {number : Nat} {listener : Listener} {journal : Journal}
    (h : IsRegular waiting engine) (hknown : engine.Knows listener) :
    Revocation.IsAbsent ⟨number, listener, journal, false⟩ waiting
      (engine.unlisten number (some listener)) := by
  constructor
  · show listener ∉ (engine.unlisten number (some listener)).listeners number
    rw [listeners_unlisten, if_pos rfl]
    exact (h.distinct number).not_mem_erase
  · rintro binding receiver rfl
    obtain ⟨other, hbinding⟩ := hknown
    refine ⟨(List.getElem?_eq_some_iff.1 hbinding).1, ?_⟩
    intro hpledged
    obtain ⟨pledgedTo, hunjoined⟩ := h.pledged.unjoined binding hpledged
    rw [hbinding] at hunjoined
    cases hunjoined

/-- A request that takes a listener away keeps it away. -/
theorem Revokes.persists {request : Request} {change : Engine → Engine} {number : Nat}
    {listener : Listener} {journal : Journal} {isFinal : Bool}
    (hrevokes : engine.Revokes number listener request) (hchange : request.change? = some change)
    (h : IsRegular waiting engine) (htidy : IsTidy engine)
    (hfinal : isFinal = true ↔ request = .destroy) :
    Revocation.Persists ⟨number, listener, journal, isFinal⟩ waiting (change engine) := by
  cases isFinal with
  | false =>
    have hkept : request ≠ .destroy := fun hdestroys => by cases hfinal.2 hdestroys
    obtain ⟨hsame, hknown⟩ := hrevokes.change_eq hchange hkept
    rw [hsame]
    exact isAbsent_unlisten h hknown
  | true =>
    cases hfinal.1 rfl
    cases hchange
    obtain ⟨handle, hhandle⟩ := hrevokes
    have hlater := engine.handle?_tearDown number
    rw [handle?_detachAll, hhandle, Option.map_some] at hlater
    exact ⟨_, hlater, isDetached_tearDown htidy hlater⟩

/-- What is left over when a listener is taken away is the dispatch that is suspended. -/
theorem lasts_revoked {request : Request} {change : Engine → Engine} {number : Nat}
    {listener : Listener} {isFinal : Bool} (hrevokes : engine.Revokes number listener request)
    (hchange : request.change? = some change) (h : IsRegular waiting engine)
    (htidy : IsTidy engine) (hpoised : Poised waiting engine)
    (hfinal : isFinal = true ↔ request = .destroy) :
    Revocation.Lasts ⟨number, listener, (change engine).journal, isFinal⟩ waiting
      (change engine) where
  persists := hrevokes.persists hchange h htidy hfinal
  regular := h.hostStep (.changes hchange)
  clears := by
    intro turn hturn
    have hfits : turn.continued.Fits (change engine) := by
      cases hpoised with
      | free hnone hfree =>
        rw [hnone] at hturn
        cases hturn
      | suspended hone hfits =>
        rw [hone] at hturn
        cases List.mem_singleton.1 hturn
        exact Turn.fits_quiet hfits (.of_change hchange engine)
    have hleftover : turn.announcement.number = number →
        Revocation.Leftover ⟨number, listener, (change engine).journal, isFinal⟩
          (change engine).journal := by
      rintro rfl
      exact ⟨[], rfl, Turn.openDispatch hfits, by simp, by simp⟩
    cases turn with
    | slot announcement => exact fun hsame => .inr (hleftover hsame)
    | listed announcement left => exact fun hsame _ => hleftover hsame

/-- A request that calls no one leaves waiting what waits. -/
theorem Stands.change {session : EngineSession} {request : Request} {change : Engine → Engine}
    (h : Stands session waiting) (hchange : request.change? = some change) :
    Stands (session.step perform (.begin request)) waiting where
  waits := by
    rw [step_of_change hchange]
    exact h.waits
  upheld := (h.upheld.step upholds_perform _).1
  filed := by
    rw [step_of_change hchange]
    exact h.filed.change hchange
  poised := by
    rw [step_of_change hchange]
    exact h.poised.quiet rfl (.of_change hchange session.state)

/-- The callback that the host was given last, if nothing has happened since. -/
def lastCall (session : EngineSession) : Option Callback :=
  match session.history with
  | .called callback :: _ => some callback
  | _ => none

/-- The last call is what happened last. -/
theorem head?_of_lastCall {session : EngineSession} {callback : Callback}
    (h : lastCall session = some callback) : session.history.head? = some (.called callback) := by
  rw [lastCall] at h
  split at h
  · next hhistory =>
    cases h
    rw [hhistory, List.head?_cons]
  · cases h

/-- Whoever was taken away from a handle, and is not added again, is called for that handle once
more at most, by the dispatch that was under way, unless as the listener in the slot. After the
engine was destroyed adding it again, or to the slot, makes no difference. -/
theorem revoked_called_by_open_dispatch (options : EngineOptions)
    (before after : List (Move Request (Except Fault Unit))) (request : Request) (number : Nat)
    (listener : Listener) (event : ChangeEvent) (older : Journal)
    (hrevokes : (sessionAfter options before).state.Revokes number listener request)
    (hafter : request ≠ .destroy → ∀ move ∈ after, move.Begins (¬ Grants number listener ·))
    (hcalled : lastCall (sessionAfter options (before ++ .begin request :: after)) =
      some (callbackFor number event listener))
    (htold : (sessionAfter options (before ++ .begin request :: after)).state.journal =
      .called (callbackFor number event listener) :: .told number event listener :: older) :
    let revoked := (sessionAfter options (before ++ [.begin request])).state
    let later := (sessionAfter options (before ++ .begin request :: after)).state
    (request ≠ .destroy ∧ later.slot number = some listener) ∨
      ∃ recent, older = recent ++ revoked.journal ∧ openDispatch revoked.journal = some number ∧
        .dispatchEnded number ∉ recent ∧ ∀ other, .told number other listener ∉ recent := by
  intro revoked later
  obtain ⟨waiting, hstands, hregular⟩ := regular_sessionAfter options before
  obtain ⟨change, hchange⟩ := hrevokes.change?_eq
  have hsession : sessionAfter options (before ++ .begin request :: after) =
      (sessionAfter options (before ++ [.begin request])).run perform after := by
    rw [List.append_cons, sessionAfter_append]
  have hrevoked : sessionAfter options (before ++ [.begin request]) =
      (sessionAfter options before).step perform (.begin request) :=
    sessionAfter_concat options before _
  have hstate : revoked = change (sessionAfter options before).state := by
    show (sessionAfter options (before ++ [.begin request])).state = _
    rw [hrevoked, step_of_change hchange]
    rfl
  -- the listener is away for good if the engine was destroyed
  obtain ⟨isFinal, hfinal⟩ : ∃ isFinal : Bool, isFinal = true ↔ request = .destroy := by
    by_cases hdestroys : request = .destroy
    · exact ⟨true, by simp [hdestroys]⟩
    · exact ⟨false, by simp [hdestroys]⟩
  have hlasts : Revocation.Lasts ⟨number, listener, revoked.journal, isFinal⟩ waiting
      (sessionAfter options (before ++ [.begin request])).state := by
    show Revocation.Lasts ⟨number, listener, revoked.journal, isFinal⟩ waiting revoked
    rw [hstate]
    exact lasts_revoked hrevokes hchange hregular hstands.upheld.valid hstands.poised hfinal
  have hallowed : ∀ move ∈ after, isFinal = false → move.Begins (¬ Grants number listener ·) := by
    rintro move hmove rfl
    exact hafter (fun hdestroys => by cases hfinal.2 hdestroys) move hmove
  have hrun := (hrevoked ▸ hstands.change hchange).run_last
    (Revocation.Lasts ⟨number, listener, revoked.journal, isFinal⟩) _
    (fun hmove hfiled hpoised hleads hlasts => (hlasts.leads hfiled hpoised hmove hleads).1)
    hlasts hallowed
  rw [← hsession] at hrun
  rcases hrun with hsame | ⟨move, earlier, engine, event, now, hpoised, hfiled, hearlier, hmove,
    hleads, -, hhistory⟩
  · rw [hsame, hrevoked, step_of_change hchange] at hcalled
    cases hcalled
  · rw [head?_of_lastCall hcalled] at hhistory
    cases hhistory
    have hspared := (hearlier.leads hfiled hpoised hmove hleads).2 _ rfl
    rcases hspared event older htold with ⟨hopen, hslot⟩ | hleftover
    · left
      refine ⟨?_, hslot⟩
      intro hdestroys
      cases (hfinal.2 hdestroys).symm.trans hopen
    · exact .inr hleftover

/-- Two listeners of a handle are to be told of a change, and the first was called. -/
def rivalMoves : List (Move Request (Except Fault Unit)) :=
  [.begin (.matchMedia (.text "(hover: none)")),
    .begin (.addListener 0 (some (.named "a"))), .begin (.addListener 0 (some (.named "b"))),
    .begin (.setOverrides ⟨[("hover", .text "none")]⟩)]

/-- The first listener takes the second away. -/
def rivalRequest : Request := .removeListener 0 (some (.named "b"))

/-- The first listener returns. -/
def rivalReply : List (Move Request (Except Fault Unit)) := [.answer (.ok ())]

/-- The reply adds no listener. -/
theorem rivalReply_grants_nothing :
    ∀ move ∈ rivalReply, move.Begins (¬ Grants 0 (.named "b") ·) := by
  simp [rivalReply, Move.Begins]

/-- The listener that was taken away is called last. -/
theorem lastCall_rival :
    lastCall (sessionAfter plainOptions (rivalMoves ++ .begin rivalRequest :: rivalReply)) =
      some (callbackFor 0 ⟨true, "(hover: none)"⟩ (.named "b")) := by
  decide +kernel

/-- The second listener was told by the dispatch that had told the first. -/
theorem journal_rival :
    (sessionAfter plainOptions (rivalMoves ++ .begin rivalRequest :: rivalReply)).state.journal =
      .called (callbackFor 0 ⟨true, "(hover: none)"⟩ (.named "b")) ::
        .told 0 ⟨true, "(hover: none)"⟩ (.named "b") ::
          (sessionAfter plainOptions (rivalMoves ++ [.begin rivalRequest])).state.journal := by
  decide +kernel

/-- The second listener is called by the dispatch in which it was taken away. -/
theorem rival_called_by_open_dispatch :
    (sessionAfter plainOptions rivalMoves).state.Revokes 0 (.named "b") rivalRequest ∧
      ((rivalRequest ≠ .destroy ∧
          (sessionAfter plainOptions
            (rivalMoves ++ .begin rivalRequest :: rivalReply)).state.slot 0 = some (.named "b")) ∨
        ∃ recent,
          (sessionAfter plainOptions (rivalMoves ++ [.begin rivalRequest])).state.journal =
            recent ++ (sessionAfter plainOptions (rivalMoves ++ [.begin rivalRequest])).state.journal ∧
          openDispatch
            (sessionAfter plainOptions (rivalMoves ++ [.begin rivalRequest])).state.journal = some 0 ∧
          .dispatchEnded 0 ∉ recent ∧ ∀ other, .told 0 other (.named "b") ∉ recent) := by
  have hrevokes : (sessionAfter plainOptions rivalMoves).state.Revokes 0 (.named "b") rivalRequest :=
    ⟨rfl, rfl, trivial⟩
  exact ⟨hrevokes, revoked_called_by_open_dispatch plainOptions rivalMoves rivalReply rivalRequest 0
    (.named "b") ⟨true, "(hover: none)"⟩ _ hrevokes (fun _ => rivalReply_grants_nothing)
    lastCall_rival journal_rival⟩

/-- A listener that was taken away is called all the same, although it is in no slot. -/
theorem rival_called_after_removal :
    ¬ ∀ (options : EngineOptions) (before after : List (Move Request (Except Fault Unit)))
        (request : Request) (number : Nat) (listener : Listener) (event : ChangeEvent)
        (older : Journal),
      (sessionAfter options before).state.Revokes number listener request →
        (∀ move ∈ after, move.Begins (¬ Grants number listener ·)) →
          (sessionAfter options (before ++ .begin request :: after)).state.slot number = none →
            lastCall (sessionAfter options (before ++ .begin request :: after)) =
                some (callbackFor number event listener) →
              (sessionAfter options (before ++ .begin request :: after)).state.journal ≠
                .called (callbackFor number event listener) ::
                  .told number event listener :: older := by
  intro hall
  have hslot : (sessionAfter plainOptions
      (rivalMoves ++ .begin rivalRequest :: rivalReply)).state.slot 0 = none := by decide +kernel
  exact hall plainOptions rivalMoves rivalReply rivalRequest 0 (.named "b")
    ⟨true, "(hover: none)"⟩ _ ⟨rfl, rfl, trivial⟩ rivalReply_grants_nothing hslot lastCall_rival
    journal_rival

end Breakpoint.Engine
