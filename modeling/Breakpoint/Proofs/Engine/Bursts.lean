import Breakpoint.Proofs.Engine.Blindness

/-!
# Bursts of sizes

Several new sizes in a row ask for one frame, and the frame takes the last of them. Up to a count
that is only recorded, an engine that was told of all of them is the engine that was told of the
last one, and so a flush does the same for both, whatever its listeners do meanwhile.
-/

namespace Breakpoint

/-- How many sweeps were begun. -/
def Journal.sweepsBegun : Journal → Nat
  | [] => 0
  | .sweepBegan _ :: journal => sweepsBegun journal + 1
  | _ :: journal => sweepsBegun journal

/-- An entry by which no sweep begins. -/
def Entry.IsSweepless : Entry → Prop
  | .sweepBegan _ => False
  | _ => True

/-- A minor entry begins no sweep. -/
theorem Entry.IsMinor.isSweepless {entry : Entry} (h : entry.IsMinor) : entry.IsSweepless := by
  cases entry <;> trivial

/-- An entry between two calls begins no sweep. -/
theorem Entry.IsSilent.isSweepless {entry : Entry} (h : entry.IsSilent) : entry.IsSweepless := by
  cases entry <;> trivial

/-- An entry that begins no sweep is not counted. -/
theorem Journal.sweepsBegun_sweepless {entry : Entry} {journal : Journal} (h : entry.IsSweepless) :
    sweepsBegun (entry :: journal) = sweepsBegun journal := by
  cases entry <;> first | rfl | exact h.elim

/-- An entry that only tells of the engine's work. -/
def Entry.IsDebug : Entry → Prop
  | .record written => written.level = .debug
  | _ => False

/-- The pacer with another count of refused requests. -/
def Pacer.counting (pacer : Pacer) (count : Nat) : Pacer :=
  { pacer with coalescer := { pacer.coalescer with coalesced := count } }

/-- While a frame is pending a request is only counted. -/
theorem Pacer.request_request (pacer : Pacer) :
    pacer.request.request = pacer.request.counting (pacer.request.coalescer.coalesced + 1) := by
  rw [Pacer.request, if_pos (isPending_request pacer)]
  rfl

namespace Engine

open Operation Journal

variable {first second third engine : Engine}

/-! ## New sizes -/

/-- Two engines that differ at most in how many signals their pending frame stands for. -/
def IsRecount (first second : Engine) : Prop :=
  first = second ∨ second.pacer.isPending = true ∧
    ∃ count, first = { second with pacer := second.pacer.counting count }

/-- A recount of a recount is one. -/
theorem IsRecount.trans (hfirst : IsRecount first second) (hsecond : IsRecount second third) :
    IsRecount first third := by
  rcases hfirst with rfl | ⟨hpending, count, rfl⟩
  · exact hsecond
  · rcases hsecond with rfl | ⟨hthird, other, rfl⟩
    · exact .inr ⟨hpending, count, rfl⟩
    · exact .inr ⟨hthird, count, rfl⟩

/-- An engine that observes its viewport asks for a frame. -/
theorem resize_of_observed (hobserving : engine.isObserving = true)
    (hobservers : engine.viewport.observers = [()]) (width height : Extent) :
    engine.resize width height =
      { engine with
        viewport := engine.viewport.resize width height, pacer := engine.pacer.request } := by
  simp only [resize, Viewport.resize, hobservers, List.foldl_cons, List.foldl_nil, sizeChanged,
    hobserving, if_true]

/-- Of two new sizes the second counts. -/
theorem isRecount_resize_resize (htidy : IsTidy engine) (size last : Extent × Extent) :
    IsRecount ((engine.resize size.1 size.2).resize last.1 last.2) (engine.resize last.1 last.2) := by
  cases hobserving : engine.isObserving with
  | true =>
    have hobservers := htidy.observing hobserving
    have hsize := resize_of_observed hobserving hobservers size.1 size.2
    have hlast := resize_of_observed hobserving hobservers last.1 last.2
    have hstill : (engine.resize size.1 size.2).isObserving = true := by rw [hsize]; exact hobserving
    have hsame : (engine.resize size.1 size.2).viewport.observers = [()] := by
      rw [hsize]
      exact hobservers
    right
    refine ⟨?_, engine.pacer.request.coalescer.coalesced + 1, ?_⟩
    · rw [hlast]
      exact engine.pacer.isPending_request
    · rw [resize_of_observed hstill hsame, hsize, hlast]
      simp only [Pacer.request_request]
      rfl
  | false =>
    have hsize := resize_of_unobserved hobserving size.1 size.2
    left
    rw [resize_of_unobserved (by rw [hsize]; exact hobserving), hsize, resize_of_unobserved hobserving]
    rfl

/-- The engine that is told of one size after the other. -/
def resizeAll (engine : Engine) (sizes : List (Extent × Extent)) : Engine :=
  sizes.foldl (fun engine size => engine.resize size.1 size.2) engine

/-- Of several new sizes the last counts. -/
theorem isRecount_resizeAll (htidy : IsTidy engine) (earlier : List (Extent × Extent))
    (last : Extent × Extent) :
    IsRecount ((engine.resizeAll earlier).resize last.1 last.2) (engine.resize last.1 last.2) := by
  induction earlier generalizing engine with
  | nil => exact .inl rfl
  | cons size earlier ih =>
    have hrest := ih (finality_resize htidy size.1 size.2).1
    exact hrest.trans (isRecount_resize_resize htidy size last)

/-! ## Flushes -/

/-- The pending frame is due when all frames are. -/
theorem exists_due_of_isPending (hpaced : engine.pacer.IsExact)
    (hpending : engine.pacer.isPending = true) :
    ∃ frame, engine.pacer.frames.due none = [frame] := by
  obtain ⟨handle, hhandle⟩ := Option.isSome_iff_exists.1 hpending
  rw [Pacer.IsExact, hhandle, Option.toList_some, List.map_eq_singleton_iff] at hpaced
  obtain ⟨frame, hscheduled, -⟩ := hpaced
  exact ⟨frame, by simp [Frames.due, Frames.dueCount, hscheduled]⟩

/-- The engine whose pending frame starts, but for its journal. -/
def framed (engine : Engine) : Engine :=
  { engine with pacer := (engine.pacer.withoutDue none).start, journal := [] }

/-- The journal when the pending frame starts. -/
def framedJournal (engine : Engine) : Journal :=
  (engine.pacer.startRecords.map .record).reverse ++ engine.journal

/-- A frame that starts takes its count of signals along, and only records it. -/
theorem perform_flush_of_pending (hpaced : engine.pacer.IsExact)
    (hpending : engine.pacer.isPending = true) :
    perform (.flush none) engine =
      ((fun _ => .count 1) <$> sweep .resize : Act Answer) (engine.framed.atop engine.framedJournal) := by
  obtain ⟨frame, hdue⟩ := exists_due_of_isPending hpaced hpending
  exact perform_flush_of_due hpending hdue

/-- A frame adds records of the lowest level only. -/
theorem adds_framedJournal (engine : Engine) :
    Adds Entry.IsDebug engine.journal engine.framedJournal := by
  apply Adds.of_records
  intro record hrecord
  have hstart : record ∈ engine.pacer.coalescer.startRecords := hrecord
  rw [Coalescer.startRecords] at hstart
  split at hstart
  · cases hstart
  · cases List.mem_singleton.1 hstart
    rfl

section Sessions

variable {first second : EngineSession} {waiting : List Suspension}

/-- A flush does the same for two engines that differ in a count of signals. -/
theorem alongside_flush (hrecount : IsRecount first.state second.state)
    (hwaiting : second.waiting = first.waiting) (hfirst : Stands first waiting)
    (hpaced : second.state.pacer.IsExact) :
    ∃ base other, Adds Entry.IsDebug first.state.journal base ∧
      Adds Entry.IsDebug second.state.journal other ∧
        Alongside base other first.history second.history
          (first.step perform (.begin (.flush none))) (second.step perform (.begin (.flush none))) := by
  rcases hrecount with hsame | ⟨hpending, count, hsame⟩
  · refine ⟨first.state.journal, second.state.journal, Adds.refl _ _, Adds.refl _ _, ?_⟩
    have halong : Alongside first.state.journal second.state.journal first.history second.history
        first second := by
      refine ⟨hwaiting, ⟨{ first.state with journal := [] }, rfl, ?_⟩, [], rfl, rfl⟩
      rw [hsame]
      rfl
    exact halong.step hfirst.waits _
  · refine ⟨first.state.framedJournal, second.state.framedJournal, adds_framedJournal _,
      adds_framedJournal _, ?_⟩
    have hframed : first.state.framed = second.state.framed := by rw [hsame]; rfl
    have hstill : first.state.pacer.isPending = true := by rw [hsame]; exact hpending
    have hsweep : IsBlind ((fun _ => .count 1) <$> sweep .resize : Act Answer) :=
      (isBlind_sweep .resize).map _
    rw [Session.step, Session.step, perform_flush_of_pending hfirst.upheld.valid.paced hstill,
      perform_flush_of_pending hpaced hpending, hframed, hsweep, hsweep]
    refine Alongside.of_advance ?_ ⟨[.begun (.flush none)], ?_, ?_⟩ _
    · exact hwaiting
    · rfl
    · rfl

end Sessions

/-! ## The sweep of a flush -/

section Sweeps

variable {stage : Stage} {after : Engine} {answer : Answer} {event : Event} {turn : Turn}
  {move : Move Request (Except Fault Unit)} {waiting rest now : List Suspension}

/-- Nothing waits, or a suspended sweep does at the bottom of what waits. -/
def RestsOnSweep (waiting : List Suspension) : Prop :=
  waiting = [] ∨ ∃ above turn answer, waiting = above ++ [.telling turn answer]

/-- A sweep that goes on begins no other. -/
theorem Arrives.sweepsBegun_eq (h : Arrives (.sweeps stage answer []) engine event now after) :
    sweepsBegun after.journal = sweepsBegun engine.journal ∧ RestsOnSweep now := by
  have hreached : ∀ {stop : Stage} {last : Engine}, stage.Reaches engine stop last →
      sweepsBegun last.journal = sweepsBegun engine.journal := by
    intro stop last hreaches
    refine Adds.keeps sweepsBegun sweepsBegun_sweepless ?_
    apply hreaches.induct _ (Adds.refl _ _)
    exact fun hstep hadds => hadds.trans (hstep.adds.mono fun _ => Entry.IsSilent.isSweepless)
  cases h with
  | ends hreaches =>
    have hclosed := hreached hreaches
    exact ⟨hclosed, .inl rfl⟩
  | calls hreaches hcalls =>
    have hstopped := hreached hreaches
    exact ⟨hstopped, .inr ⟨[], _, _, rfl⟩⟩

/-- A quiet change begins no sweep. -/
theorem Quiet.sweepsBegun_eq (h : Quiet engine after) :
    sweepsBegun after.journal = sweepsBegun engine.journal :=
  Adds.keeps sweepsBegun sweepsBegun_sweepless (h.journal.mono fun _ => Entry.IsMinor.isSweepless)

/-- No sweep begins while one is suspended. -/
theorem Leads.sweepsBegun_eq {above : List Suspension}
    (hleads : Leads move (above ++ [.telling turn answer]) engine event now after)
    (hpoised : Poised (above ++ [.telling turn answer]) engine) :
    sweepsBegun after.journal = sweepsBegun engine.journal ∧ RestsOnSweep now := by
  by_cases hdeep : (∃ reply, move = .answer reply) → above ≠ []
  · have hturn : turns [.telling turn answer] ≠ [] := List.cons_ne_nil _ _
    have hadds := hleads.adds_above hpoised hturn hdeep
    refine ⟨Adds.keeps sweepsBegun sweepsBegun_sweepless
      (hadds.mono fun _ => Entry.IsMinor.isSweepless), .inr ?_⟩
    rcases hleads.waiting_cases with ⟨pushed, rfl⟩ | ⟨reply, top, rest, pushed, rfl, hwaits, rfl⟩
    · exact ⟨pushed ++ above, turn, answer, (List.append_assoc _ _ _).symm⟩
    · cases above with
      | nil => exact absurd rfl (hdeep ⟨reply, rfl⟩)
      | cons first above =>
        obtain ⟨-, rfl⟩ := List.cons.inj hwaits
        exact ⟨pushed ++ above, turn, answer, (List.append_assoc _ _ _).symm⟩
  -- the suspended sweep goes on
  · obtain ⟨⟨reply, rfl⟩, hnone⟩ := Classical.not_imp.1 hdeep
    rw [not_not] at hnone
    subst hnone
    obtain ⟨outset, middle, hhost, harrives⟩ := hleads
    cases hhost with
    | hears =>
      obtain ⟨hsame, hnow⟩ := harrives.sweepsBegun_eq
      have hheard : Quiet engine (turn.hear reply engine) := .of_plain (.hear turn reply engine)
      exact ⟨hsame.trans hheard.sweepsBegun_eq, hnow⟩

/-- A flush begins at most one sweep before the host has control again. -/
theorem Leads.sweepsBegun_flush {limit : Option Int}
    (hleads : Leads (.begin (.flush limit)) [] engine event now after) :
    sweepsBegun after.journal ≤ sweepsBegun engine.journal + 1 ∧ RestsOnSweep now := by
  obtain ⟨outset, middle, hhost, harrives⟩ := hleads
  cases outset with
  | rests event rest =>
    have hquiet := (Quiet.of_hostStep hhost).sweepsBegun_eq
    cases harrives
    refine ⟨hquiet.le.trans (Nat.le_succ _), .inl ?_⟩
    cases hhost with
    | changes hchange => cases hchange
    | idles => rfl
    | joinsSweep hprompts hsweeping => rfl
  | sweeps stage answer rest =>
    cases hhost with
    | @beginsSweep request reason answer waiting engine entry hprompts hfree =>
      obtain ⟨hsame, hnow⟩ := harrives.sweepsBegun_eq
      have hprompted : Quiet engine entry := .of_plain (.of_prompts hprompts)
      have hbegun : sweepsBegun after.journal = sweepsBegun engine.journal + 1 :=
        hsame.trans (congrArg (· + 1) hprompted.sweepsBegun_eq)
      exact ⟨hbegun.le, hnow⟩

end Sweeps

/-- The moves are made while some operation is under way. -/
def IsBusy (session : EngineSession) : List (Move Request (Except Fault Unit)) → Prop
  | [] => True
  | move :: moves => session.isIdle = false ∧ IsBusy (session.step perform move) moves

/-- No sweep begins until one that is suspended is over. -/
theorem Stands.sweepsBegun_run {session : EngineSession} {waiting : List Suspension}
    {moves : List (Move Request (Except Fault Unit))} (h : Stands session waiting)
    (hrests : RestsOnSweep waiting) (hbusy : IsBusy session moves) :
    sweepsBegun (session.run perform moves).state.journal = sweepsBegun session.state.journal := by
  induction moves generalizing session waiting with
  | nil => rfl
  | cons move moves ih =>
    obtain ⟨hwaits, hbusy⟩ := hbusy
    rcases hrests with rfl | ⟨above, turn, answer, rfl⟩
    · rw [Session.isIdle, h.waits] at hwaits
      cases hwaits
    · rcases h.step move with ⟨hnone, -, -⟩ | ⟨event, now, hleads, hstands, -⟩
      · cases (List.append_eq_nil_iff.1 hnone).2
      · obtain ⟨hsame, hnow⟩ := hleads.sweepsBegun_eq h.poised
        exact (ih hstands hnow hbusy).trans hsame

/-- A pass that is handed its size. -/
def passAt (size : Extent × Extent) : Act Unit := do
  Operation.modify (·.beginPass)
  let host ← readHost
  let engine ← Operation.get
  forAll (updateHandle size host) engine.registered

/-- A sweep whose first pass is handed its size. -/
def sweepAt (reason : SweepReason) (size : Extent × Extent) : Act Unit := do
  let engine ← Operation.get
  Operation.modify (·.beginSweep reason)
  Operation.ensuring
    (do
      passAt size
      Round.onward ⟨reason, 0, furtherPasses engine.followUps⟩)
    (·.endSweep)

/-- A pass that can read the size is handed it. -/
theorem pass_eq_passAt {size : Extent × Extent}
    (hsize : engine.providedSize = .ok (.ok size.1, .ok size.2)) : pass engine = passAt size engine := by
  have hgiven : passAt size engine =
      forAll (updateHandle size engine.preferences) engine.registered
        (engine.beginPass.noteRecords engine.hostRecords) := bind_of_done (readHost_eq engine.beginPass)
  rw [pass_eq hsize, hgiven]

/-- A sweep that begins where the size can be read is handed it. -/
theorem sweep_eq_sweepAt {size : Extent × Extent} (reason : SweepReason)
    (hfree : engine.isSweeping = false)
    (hsize : engine.providedSize = .ok (.ok size.1, .ok size.2)) :
    sweep reason engine = sweepAt reason size engine := by
  have hbegun : (engine.beginSweep reason).providedSize = .ok (.ok size.1, .ok size.2) := hsize
  have hprogram : (firstStage reason engine.followUps).program (engine.beginSweep reason) =
      (do
        passAt size
        Round.onward ⟨reason, 0, furtherPasses engine.followUps⟩ : Act Unit)
          (engine.beginSweep reason) := bind_eq_bind _ (pass_eq_passAt hbegun)
  simp only [sweep, sweepAt, get_bind, hfree, Bool.false_eq_true, if_false, modify_bind,
    allPasses_eq_program]
  exact congrArg (Dialogue.andThen · _) hprogram

/-- The host flushes all frames, and goes on. -/
def afterFlush (session : EngineSession) (moves : List (Move Request (Except Fault Unit))) :
    EngineSession :=
  session.run perform (.begin (.flush none) :: moves)

/-- A flush of all frames begins at most one sweep until it is over, and this one's first pass takes
the size and asks no viewport for it. -/
structure FlushesOnce (session : EngineSession) (size : Extent × Extent) : Prop where
  once : ∀ moves, IsBusy (session.step perform (.begin (.flush none))) moves →
    sweepsBegun (afterFlush session moves).state.journal ≤ sweepsBegun session.state.journal + 1
  reads : session.state.provider.sizeFails = false → session.state.provider.rawSize = none →
    perform (.flush none) session.state =
      if session.state.pacer.isPending then
        ((fun _ => .count 1) <$> sweepAt .resize size : Act Answer)
          (session.state.takeDue none).startFrame
      else .done (.ok (.count 0)) session.state

/-- A flush while nothing waits sweeps once, at the size of the viewport. -/
theorem Stands.flushesOnce {session : EngineSession} (h : Stands session []) :
    FlushesOnce session (session.state.viewport.width, session.state.viewport.height) where
  once moves hbusy := by
    rcases h.step (.begin (.flush none)) with ⟨-, ⟨reply, hnone⟩, -⟩ | ⟨event, now, hleads, hstands, -⟩
    · cases hnone
    · obtain ⟨hbegun, hnow⟩ := hleads.sweepsBegun_flush
      exact (hstands.sweepsBegun_run hnow hbusy).le.trans hbegun
  reads hfails hraw := by
    have hpaced := h.upheld.valid.paced
    split
    · next hpending =>
      obtain ⟨frame, hdue⟩ := exists_due_of_isPending hpaced hpending
      have hfree : session.state.isSweeping = false := by
        cases h.poised with
        | free hnone hfree => exact hfree.idle
        | suspended hone hfits => cases hone
      have hsize : (session.state.takeDue none).startFrame.providedSize =
          .ok (.ok session.state.viewport.width, .ok session.state.viewport.height) := by
        show session.state.providedSize = _
        simp [providedSize, hfails, hraw]
      rw [perform_flush_of_due hpending hdue]
      exact bind_eq_bind _ (sweep_eq_sweepAt .resize hfree hsize)
    · next hnone =>
      exact bind_of_done (flush_of_unpaced hpaced (Bool.eq_false_iff.2 hnone) none)

/-! ## Bursts -/

/-- The host sets one size after the other. -/
def resizing (sizes : List (Extent × Extent)) : List (Move Request (Except Fault Unit)) :=
  sizes.map fun size => .begin (.setSize size.1 size.2)

/-- A burst of sizes resizes the engine to each in turn, and nothing waits. -/
theorem run_resizing (session : EngineSession) (sizes : List (Extent × Extent)) :
    (session.run perform (resizing sizes)).state = session.state.resizeAll sizes ∧
      (session.run perform (resizing sizes)).waiting = session.waiting := by
  induction sizes generalizing session with
  | nil => exact ⟨rfl, rfl⟩
  | cons size sizes ih =>
    have hrest := ih (session.step perform (.begin (.setSize size.1 size.2)))
    rw [step_of_change rfl] at hrest
    rw [resizing, List.map_cons, Session.run, List.foldl_cons, step_of_change rfl]
    exact hrest

/-- Two sessions flush all frames, and the same moves follow: they lead to the same events, and to
engines that differ only in older entries of their journals, which tell of the frames' signals. -/
structure FlushesAlike (first second : EngineSession)
    (moves : List (Move Request (Except Fault Unit))) : Prop where
  state : (afterFlush first moves).state =
    { (afterFlush second moves).state with journal := (afterFlush first moves).state.journal }
  waiting : (afterFlush first moves).waiting = (afterFlush second moves).waiting
  events : ∃ since, (afterFlush first moves).history = since ++ first.history ∧
    (afterFlush second moves).history = since ++ second.history
  journal : ∃ added base other, (afterFlush first moves).state.journal = added ++ base ∧
    (afterFlush second moves).state.journal = added ++ other ∧
      Adds Entry.IsDebug first.state.journal base ∧ Adds Entry.IsDebug second.state.journal other

/-- Two engines that differ at most in a count of signals flush alike. -/
theorem Stands.flushesAlike {first second : EngineSession} {waiting : List Suspension}
    (h : Stands first waiting) (hrecount : IsRecount first.state second.state)
    (hwaiting : second.waiting = first.waiting) (hpaced : second.state.pacer.IsExact)
    (moves : List (Move Request (Except Fault Unit))) : FlushesAlike first second moves := by
  obtain ⟨base, other, hbase, hother, halong⟩ := alongside_flush hrecount hwaiting h hpaced
  obtain ⟨now, hnow, -⟩ := h.run (fun _ _ => True) (fun _ _ _ => id) trivial [.begin (.flush none)]
  have hlast : Alongside base other first.history second.history (afterFlush first moves)
      (afterFlush second moves) := halong.run hnow moves
  obtain ⟨engine, hfirst, hsecond⟩ := hlast.state
  refine ⟨?_, hlast.waiting.symm, hlast.history, engine.journal, base, other, ?_, ?_, hbase, hother⟩
  · rw [hfirst, hsecond]
    rfl
  · rw [hfirst]
    rfl
  · rw [hsecond]
    rfl

/-- Where nothing waits, nothing does when the host has set some sizes. -/
theorem stands_resizing (options : EngineOptions) (moves : List (Move Request (Except Fault Unit)))
    (hidle : (sessionAfter options moves).isIdle = true) (sizes : List (Extent × Extent)) :
    let session := sessionAfter options (moves ++ resizing sizes)
    Stands session [] ∧ session.waiting = [] ∧
      session.state = (sessionAfter options moves).state.resizeAll sizes := by
  intro session
  obtain ⟨waiting, hstands⟩ := stands_sessionAfter options (moves ++ resizing sizes)
  obtain ⟨hstate, hwaiting⟩ := run_resizing (sessionAfter options moves) sizes
  rw [← sessionAfter_append] at hstate hwaiting
  have hnone : session.waiting = [] := hwaiting.trans (List.isEmpty_iff.1 hidle)
  have hempty : waiting = [] := by
    have hwaits := hstands.waits
    rw [hnone] at hwaits
    exact List.map_eq_nil_iff.1 hwaits.symm
  subst hempty
  exact ⟨hstands, hnone, hstate⟩

/-- The engine has the last size that it was told of. -/
theorem size_resizeAll (earlier : List (Extent × Extent)) (last : Extent × Extent) (engine : Engine) :
    ((engine.resizeAll (earlier ++ [last])).viewport.width,
      (engine.resizeAll (earlier ++ [last])).viewport.height) = last := by
  obtain ⟨pacer, hresize, -⟩ := (engine.resizeAll earlier).resize_eq last.1 last.2
  have hlast : engine.resizeAll (earlier ++ [last]) =
      (engine.resizeAll earlier).resize last.1 last.2 := List.foldl_append
  rw [hlast, hresize]
  rfl

/-- A burst of new sizes collapses to the last: when all frames are flushed afterwards, then whatever
the host does from then on, everything goes on as after the last size alone. Either flush begins at
most one sweep, whose first pass takes the last size. -/
theorem burst_collapses (options : EngineOptions) (moves : List (Move Request (Except Fault Unit)))
    (hidle : (sessionAfter options moves).isIdle = true) (earlier : List (Extent × Extent))
    (last : Extent × Extent) :
    let burst := sessionAfter options (moves ++ resizing (earlier ++ [last]))
    let single := sessionAfter options (moves ++ resizing [last])
    (∀ after, FlushesAlike burst single after) ∧ FlushesOnce burst last ∧ FlushesOnce single last := by
  intro burst single
  obtain ⟨hburst, hburstWaiting, hburstState⟩ := stands_resizing options moves hidle (earlier ++ [last])
  obtain ⟨hsingle, hsingleWaiting, hsingleState⟩ := stands_resizing options moves hidle [last]
  have htidy : IsTidy (sessionAfter options moves).state := (upheld_sessionAfter options moves).valid
  refine ⟨?alike, ?burst, ?single⟩
  case alike =>
    have hrecount : IsRecount burst.state single.state := by
      rw [hburstState, hsingleState, resizeAll, List.foldl_append]
      exact isRecount_resizeAll htidy earlier last
    exact hburst.flushesAlike hrecount (hsingleWaiting.trans hburstWaiting.symm)
      hsingle.upheld.valid.paced
  case burst =>
    rw [← size_resizeAll earlier last (sessionAfter options moves).state, ← hburstState]
    exact hburst.flushesOnce
  case single =>
    rw [← size_resizeAll [] last (sessionAfter options moves).state, List.nil_append, ← hsingleState]
    exact hsingle.flushesOnce

/-- A host that listens to a query and has set a size, for which a frame is pending. -/
def watchedMoves : List (Move Request (Except Fault Unit)) :=
  [.begin (.matchMedia (.text "(min-width: 700px)")), .begin (.addListener 0 (some (.named "a"))),
    .begin (.setSize (.ofFloat 650) (.ofFloat 800))]

/-- Two further sizes are counted, and the last one alone is; the flushes are the same. -/
theorem burst_collapses_of_watched :
    let burst := sessionAfter plainOptions
      (watchedMoves ++ resizing ([(.ofFloat 700, .ofFloat 800)] ++ [(.ofFloat 750, .ofFloat 800)]))
    let single := sessionAfter plainOptions
      (watchedMoves ++ resizing [(.ofFloat 750, .ofFloat 800)])
    ((sessionAfter plainOptions watchedMoves).isIdle = true ∧
      burst.state.pacer.coalescer.coalesced = 2 ∧ single.state.pacer.coalescer.coalesced = 1) ∧
      (∀ after, FlushesAlike burst single after) ∧
        FlushesOnce burst (.ofFloat 750, .ofFloat 800) ∧
          FlushesOnce single (.ofFloat 750, .ofFloat 800) := by
  have hidle : (sessionAfter plainOptions watchedMoves).isIdle = true := by decide +kernel
  exact ⟨⟨hidle, by decide +kernel, by decide +kernel⟩,
    burst_collapses plainOptions watchedMoves hidle [(.ofFloat 700, .ofFloat 800)]
      (.ofFloat 750, .ofFloat 800)⟩

end Engine

end Breakpoint
