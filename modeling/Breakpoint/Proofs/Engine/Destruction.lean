import Breakpoint.Proofs.Engine.Finality

/-!
# Destroyed engines

Destroying an engine detaches its handles, leaves its viewport and gives up its frame. All of this
is final: whatever the host does afterwards, and whatever was interrupted when the engine was
destroyed, the handles keep their answers and no frame is scheduled. Only a viewport that cannot be
left goes on being observed, to no effect.
-/

namespace Breakpoint.Engine

open Operation

variable {engine : Engine}

/-- What is left of an engine that was destroyed: nothing is observed, pending, registered or
remembered. -/
structure IsTornDown (engine : Engine) : Prop where
  unobserved : engine.isObserving = false
  unpaced : engine.pacer.coalescer.pending = none
  registry : engine.registry = {}
  parsed : engine.parsed = {}
  followUpRequested : engine.followUpRequested = false
  isDestroyed : engine.isDestroyed = true

/-- An engine that is destroyed is torn down. -/
theorem isTornDown_tearDown (engine : Engine) : IsTornDown engine.tearDown := by
  have hdetached : ∀ engine : Engine, engine.isObserving = false →
      engine.pacer.coalescer.pending = none → IsTornDown engine.detachAll.markDestroyed := by
    intro engine hobserving hpending
    rw [markDestroyed]
    split
    · next hdestroyed => exact ⟨hobserving, hpending, rfl, rfl, rfl, hdestroyed⟩
    · exact ⟨hobserving, hpending, rfl, rfl, rfl, rfl⟩
  apply hdetached
  · exact isObserving_stopObserving engine
  · exact pending_cancel _

/-- No frame is pending in an engine that is torn down. -/
theorem IsTornDown.idle (h : IsTornDown engine) : engine.pacer.isPending = false := by
  rw [Pacer.isPending, Coalescer.isPending, h.unpaced, Option.isSome_none]

/-- Destroying an engine that was just destroyed changes nothing. -/
theorem IsTornDown.tearDown_eq (h : IsTornDown engine) : engine.tearDown = engine := by
  have hstop : engine.stopObserving = engine := by
    rw [stopObserving, h.unobserved]
    rfl
  have hcancel : engine.cancelFrame = engine := by
    simp only [cancelFrame, Pacer.cancel, h.unpaced]
  have hdetach : engine.detachAll = engine := by
    obtain ⟨-, -, hregistry, hparsed, hfollowUp, -⟩ := h
    have hhandles : engine.handles.mapIdx (fun number handle =>
        if number ∈ ([] : List Nat) then { handle with isDetached := true } else handle) =
          engine.handles := by
      apply List.ext_getElem?
      intro number
      simp
    simp only [detachAll, hregistry, List.map_nil, hhandles]
    rw [← hregistry, ← hparsed, ← hfollowUp]
  rw [tearDown, hstop, hcancel, hdetach, markDestroyed, if_pos h.isDestroyed]

/-- The handles of a tidy engine are detached when it is destroyed. -/
theorem isDetached_tearDown (htidy : IsTidy engine) {number : Nat} {handle : Handle}
    (hhandle : engine.tearDown.handle? number = some handle) : handle.isDetached = true := by
  have hcancelled := finality_cancelFrame (finality_stopObserving htidy).1
  apply isDetached_detachAll hcancelled.1
  rw [← hhandle]
  show _ = (markDestroyed _).handle? number
  rw [markDestroyed]
  split <;> rfl

/-- An engine that observes nothing takes no notice of a new size. -/
theorem resize_of_unobserved (h : engine.isObserving = false) (width height : Extent) :
    engine.resize width height = { engine with viewport := engine.viewport.resize width height } := by
  have htold : ∀ (observers : List Unit) (told : Engine), told.isObserving = false →
      observers.foldl (fun engine _ => engine.sizeChanged) told = told := by
    intro observers told hstopped
    induction observers with
    | nil => rfl
    | cons observer observers ih =>
      rw [List.foldl_cons, sizeChanged, hstopped]
      exact ih
  exact htold _ _ h

/-- Without a pending frame nothing is scheduled. -/
theorem scheduled_of_unpaced (hpaced : engine.pacer.IsExact) (h : engine.pacer.isPending = false) :
    engine.pacer.frames.scheduled = [] := by
  have hnone : engine.pacer.coalescer.pending = none := by
    simpa [Pacer.isPending, Coalescer.isPending] using h
  rw [Pacer.IsExact, hnone, Option.toList_none, List.map_eq_nil_iff] at hpaced
  exact hpaced

/-- Without a pending frame nothing is due. -/
theorem flush_of_unpaced (hpaced : engine.pacer.IsExact) (h : engine.pacer.isPending = false)
    (limit : Option Int) : flush limit engine = .done (.ok 0) engine := by
  obtain ⟨hdue, hkept⟩ | ⟨hpending, -⟩ := due_cases hpaced limit
  · simp only [flush, get_bind, modify_bind, hdue, hkept]
    rfl
  · rw [h] at hpending
    cases hpending

/-- A request that calls no one makes its change in one move. -/
theorem step_of_change {request : Request} {change : Engine → Engine}
    (h : request.change? = some change)
    (session : Session Request Engine Callback (Except Fault Unit) Answer) :
    session.step perform (.begin request) =
      ({ session with state := change session.state }.note (.begun request)).note
        (.ended (.ok .nothing)) := by
  rw [Session.step, perform_of_change h]
  rfl

/-- A flush without a pending frame counts no task. -/
theorem step_flush_of_unpaced {session : Session Request Engine Callback (Except Fault Unit) Answer}
    (hpaced : session.state.pacer.IsExact) (h : session.state.pacer.isPending = false)
    (limit : Option Int) :
    session.step perform (.begin (.flush limit)) =
      (session.note (.begun (.flush limit))).note (.ended (.ok (.count 0))) := by
  have hperform : perform (.flush limit) session.state = .done (.ok (.count 0)) session.state :=
    bind_of_done (flush_of_unpaced hpaced h limit)
  rw [Session.step, Session.note, hperform]
  rfl

/-- The records of an engine are those of its journal. -/
theorem mem_records {record : LogRecord} (h : .record record ∈ engine.journal) :
    record ∈ engine.records := by
  rw [records, List.mem_filterMap]
  exact ⟨.record record, List.mem_reverse.2 h, rfl⟩

/-- When an engine has been destroyed, also from within a sweep, then whatever follows: every handle
made before is detached and keeps its answer, the viewport is not observed unless leaving it failed
and was recorded, no frame is pending and none is scheduled any more, a new size changes nothing but
the viewport, a flush changes nothing, and destroying the engine once more right away changes
nothing either. -/
theorem destroy_is_final (options : EngineOptions)
    (before after : List (Move Request (Except Fault Unit))) :
    let destroyed := sessionAfter options (before ++ [.begin .destroy])
    let later := sessionAfter options (before ++ .begin .destroy :: after)
    (∀ number handle, destroyed.state.handle? number = some handle → handle.isDetached = true ∧
      ∃ kept, later.state.handle? number = some kept ∧ kept.isDetached = true ∧
        kept.isMatch = handle.isMatch) ∧
    (later.state.viewport.observers = [] ∨ unobserveFailure ∈ destroyed.state.records) ∧
    later.state.pacer.isPending = false ∧ later.state.pacer.frames.scheduled = [] ∧
    later.state.pacer.frames.issued = destroyed.state.pacer.frames.issued ∧
    (∀ width height, later.step perform (.begin (.setSize width height)) =
      ({ later with state.viewport := later.state.viewport.resize width height }.note
        (.begun (.setSize width height))).note (.ended (.ok .nothing))) ∧
    (∀ limit, later.step perform (.begin (.flush limit)) =
      (later.note (.begun (.flush limit))).note (.ended (.ok (.count 0)))) ∧
    destroyed.step perform (.begin .destroy) =
      (destroyed.note (.begun .destroy)).note (.ended (.ok .nothing)) := by
  intro destroyed later
  have htidy := (upheld_sessionAfter options before).valid
  have hdestroyed : destroyed.state = (sessionAfter options before).state.tearDown := by
    show (Session.run _ _ _).state = _
    rw [Session.run, List.foldl_append]
    rfl
  have hlater : later = destroyed.run perform after := by
    show Session.run _ _ _ = Session.run _ (Session.run _ _ _) _
    simp only [Session.run, List.foldl_append, List.foldl_cons, List.foldl_nil]
  have htorn : IsTornDown destroyed.state := hdestroyed ▸ isTornDown_tearDown _
  have hupheld : destroyed.Upheld finality := upheld_sessionAfter options _
  obtain ⟨hlaterUpheld, hstep⟩ := hupheld.run upholds_perform after
  rw [← hlater] at hlaterUpheld hstep
  have hunobserved := hstep.unobserved htorn.unobserved
  have hunpaced := hstep.unpaced htorn.unobserved htorn.idle
  have hpaced := hlaterUpheld.valid.paced
  refine ⟨?handles, ?observers, hunpaced.1, scheduled_of_unpaced hpaced hunpaced.1, hunpaced.2,
    ?size, ?flush, ?destroy⟩
  case handles =>
    intro number handle hhandle
    have hdetached : handle.isDetached = true := by
      rw [hdestroyed] at hhandle
      exact isDetached_tearDown htidy hhandle
    exact ⟨hdetached, hstep.detached number handle hhandle hdetached⟩
  case observers =>
    rw [hunobserved.2]
    exact (hupheld.valid.stopped htorn.unobserved).imp_right mem_records
  case size =>
    intro width height
    rw [step_of_change rfl, resize_of_unobserved hunobserved.1]
  case flush =>
    intro limit
    exact step_flush_of_unpaced hpaced hunpaced.1 limit
  case destroy =>
    have hsame : destroyed.state.stopObserving.cancelFrame.detachAll.markDestroyed = destroyed.state :=
      htorn.tearDown_eq
    rw [step_of_change rfl, hsame]

/-- A viewport that fails to be left is still observed. -/
theorem failing_unobserve_leaves_observer :
    ¬ ∀ (options : EngineOptions) (before after : List (Move Request (Except Fault Unit))),
      (sessionAfter options (before ++ .begin .destroy :: after)).state.viewport.observers = [] := by
  intro h
  have hobserved := h plainOptions [.begin (.failUnobserve true)] []
  cases hobserved

end Breakpoint.Engine
