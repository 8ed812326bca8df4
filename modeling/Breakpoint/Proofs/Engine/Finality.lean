import Breakpoint.Proofs.Engine.Unheard
import Breakpoint.Proofs.Guarantee

/-!
# What is over stays over

A detached handle stays detached and keeps its answer, an engine that has stopped observing its
viewport never observes it again, and without an observed viewport no frame is scheduled. Every
stretch of an operation between two callbacks keeps to this, also one that goes on after it was
interrupted.
-/

namespace Breakpoint.Engine

open Operation

/-- The record of a viewport that fails to be left. -/
def unobserveFailure : LogRecord :=
  ⟨.error, .engine, "Failed to stop observing the preview viewport", some (.raised "")⟩

/-- What holds of an engine whenever its host has control: exactly the pending frame is scheduled,
the engine observes its viewport once, or has left it or recorded that it could not, and every
handle that is not detached is registered. -/
structure IsTidy (engine : Engine) : Prop where
  paced : engine.pacer.IsExact
  observing : engine.isObserving = true → engine.viewport.observers = [()]
  stopped : engine.isObserving = false →
    engine.viewport.observers = [] ∨ .record unobserveFailure ∈ engine.journal
  live : ∀ number handle, engine.handle? number = some handle → handle.isDetached = false →
    number ∈ engine.registered

/-- What was over before is over afterwards. -/
structure StaysOver (before after : Engine) : Prop where
  detached : ∀ number handle, before.handle? number = some handle → handle.isDetached = true →
    ∃ kept, after.handle? number = some kept ∧ kept.isDetached = true ∧ kept.isMatch = handle.isMatch
  unobserved : before.isObserving = false →
    after.isObserving = false ∧ after.viewport.observers = before.viewport.observers
  unpaced : before.isObserving = false → before.pacer.isPending = false →
    after.pacer.isPending = false ∧ after.pacer.frames.issued = before.pacer.frames.issued
  recorded : before.journal ⊆ after.journal

/-- In a state that does not change, what is over stays over. -/
theorem StaysOver.refl (engine : Engine) : StaysOver engine engine where
  detached _ handle hhandle hdetached := ⟨handle, hhandle, hdetached, rfl⟩
  unobserved hobserving := ⟨hobserving, rfl⟩
  unpaced _ hpending := ⟨hpending, rfl⟩
  recorded := List.Subset.refl _

/-- What stays over through two changes stays over through both. -/
theorem StaysOver.trans {first second third : Engine} (hfirst : StaysOver first second)
    (hsecond : StaysOver second third) : StaysOver first third where
  detached number handle hhandle hdetached := by
    obtain ⟨kept, hkept, hstill, hsame⟩ := hfirst.detached number handle hhandle hdetached
    obtain ⟨last, hlast, hdone, hequal⟩ := hsecond.detached number kept hkept hstill
    exact ⟨last, hlast, hdone, hequal.trans hsame⟩
  unobserved hobserving := by
    obtain ⟨hleft, hobservers⟩ := hfirst.unobserved hobserving
    obtain ⟨hstill, hsame⟩ := hsecond.unobserved hleft
    exact ⟨hstill, hsame.trans hobservers⟩
  unpaced hobserving hpending := by
    obtain ⟨hidle, hissued⟩ := hfirst.unpaced hobserving hpending
    obtain ⟨hstill, hsame⟩ := hsecond.unpaced (hfirst.unobserved hobserving).1 hidle
    exact ⟨hstill, hsame.trans hissued⟩
  recorded := List.Subset.trans hfirst.recorded hsecond.recorded

/-- What is over stays over, and the engine is tidy whenever the host has control. -/
def finality : Guarantee Engine where
  Valid := IsTidy
  Step := StaysOver
  refl := StaysOver.refl
  trans := StaysOver.trans

variable {engine after : Engine}

/-! ## Changes that touch nothing that may be over -/

/-- Whether a handle is detached, and its answer. -/
def status (handle : Handle) : Bool × Bool := (handle.isDetached, handle.isMatch)

/-- The status of every handle stays, and so do the registry, the pacer and what is observed. -/
structure Unmoved (before after : Engine) : Prop where
  handles : ∀ number, (after.handle? number).map status = (before.handle? number).map status
  registered : after.registered = before.registered
  pacer : after.pacer = before.pacer
  isObserving : after.isObserving = before.isObserving
  observers : after.viewport.observers = before.viewport.observers
  journal : before.journal ⊆ after.journal

/-- Nothing that is over is touched by a change that moves nothing. -/
theorem Unmoved.finality (h : Unmoved engine after) (htidy : IsTidy engine) :
    IsTidy after ∧ StaysOver engine after := by
  have hback : ∀ number handle, after.handle? number = some handle →
      ∃ earlier, engine.handle? number = some earlier ∧ status earlier = status handle := by
    intro number handle hhandle
    have hstatus := h.handles number
    rw [hhandle, Option.map_some, eq_comm, Option.map_eq_some_iff] at hstatus
    exact hstatus
  have hforth : ∀ number handle, engine.handle? number = some handle →
      ∃ later, after.handle? number = some later ∧ status later = status handle := by
    intro number handle hhandle
    have hstatus := h.handles number
    rw [hhandle, Option.map_some, Option.map_eq_some_iff] at hstatus
    exact hstatus
  constructor
  · refine ⟨h.pacer ▸ htidy.paced, ?_, ?_, ?_⟩
    · rw [h.isObserving, h.observers]
      exact htidy.observing
    · rw [h.isObserving, h.observers]
      exact fun hobserving => (htidy.stopped hobserving).imp_right (@h.journal _)
    · intro number handle hhandle hattached
      obtain ⟨earlier, hearlier, hstatus⟩ := hback number handle hhandle
      obtain ⟨hdetached, -⟩ := Prod.mk.inj hstatus
      rw [h.registered]
      exact htidy.live number earlier hearlier (hdetached.trans hattached)
  · refine ⟨?_, ?_, ?_, h.journal⟩
    · intro number handle hhandle hdetached
      obtain ⟨later, hlater, hstatus⟩ := hforth number handle hhandle
      obtain ⟨hsame, hmatch⟩ := Prod.mk.inj hstatus
      exact ⟨later, hlater, hsame.trans hdetached, hmatch⟩
    · intro hobserving
      exact ⟨h.isObserving.trans hobserving, h.observers⟩
    · intro _ hpending
      rw [h.pacer]
      exact ⟨hpending, rfl⟩

namespace Unmoved

/-- A change that leaves the handles, the registry, the pacer and the viewport alone. -/
theorem of_eq (hhandles : after.handles = engine.handles) (hregistry : after.registry = engine.registry)
    (hpacer : after.pacer = engine.pacer) (hobserving : after.isObserving = engine.isObserving)
    (hviewport : after.viewport = engine.viewport) (hjournal : engine.journal ⊆ after.journal) :
    Unmoved engine after where
  handles number := by rw [handle?, handle?, hhandles]
  registered := by rw [Engine.registered, Engine.registered, hregistry]
  pacer := hpacer
  isObserving := hobserving
  observers := by rw [hviewport]
  journal := hjournal

/-- A new entry of the journal moves nothing. -/
theorem note (engine : Engine) (entry : Entry) : Unmoved engine (engine.note entry) :=
  of_eq rfl rfl rfl rfl rfl (List.subset_cons_self _ _)

/-- New records move nothing. -/
theorem noteRecords (engine : Engine) (records : List LogRecord) :
    Unmoved engine (engine.noteRecords records) :=
  of_eq rfl rfl rfl rfl rfl (List.subset_append_right _ _)

/-- A change of one handle that neither detaches it nor gives it another answer. -/
theorem changeHandle {change : Handle → Handle} (hstatus : ∀ handle, status (change handle) = status handle)
    (engine : Engine) (number : Nat) : Unmoved engine (engine.changeHandle number change) where
  handles other := by
    rw [handle?_changeHandle]
    split
    · rw [Option.map_map]
      congr 1
      funext handle
      exact hstatus handle
    · rfl
  registered := rfl
  pacer := rfl
  isObserving := rfl
  observers := rfl
  journal := List.Subset.refl _

/-- A state is unmoved from itself. -/
theorem refl (engine : Engine) : Unmoved engine engine :=
  of_eq rfl rfl rfl rfl rfl (List.Subset.refl _)

/-- Listening to a handle moves nothing. -/
theorem listen (engine : Engine) (number : Nat) (listener : Option Listener) :
    Unmoved engine (engine.listen number listener) := by
  cases listener with
  | none => exact refl engine
  | some listener =>
    apply changeHandle
    intro handle
    rw [Handle.addListener]
    split <;> rfl

/-- No longer listening to a handle moves nothing. -/
theorem unlisten (engine : Engine) (number : Nat) (listener : Option Listener) :
    Unmoved engine (engine.unlisten number listener) := by
  cases listener with
  | none => exact refl engine
  | some listener =>
    apply changeHandle
    intro handle
    rfl

/-- No longer listening for a type of events moves nothing. -/
theorem unlistenTo (engine : Engine) (number : Nat) (type : Text) (listener : Option Listener) :
    Unmoved engine (engine.unlistenTo number type listener) := by
  rw [Engine.unlistenTo]
  split
  · exact unlisten engine number listener
  · exact refl engine

/-- Listening for a type of events moves nothing. -/
theorem listenTo (engine : Engine) (number : Nat) (type : Text) (listener : Option Listener) :
    Unmoved engine (engine.listenTo number type listener) := by
  rw [Engine.listenTo]
  split
  · exact listen engine number listener
  · exact refl engine

/-- Reading a query moves nothing. -/
theorem recalls {media : Text} {tree : Option Query} (h : engine.Recalls media tree after) :
    Unmoved engine after := by
  obtain ⟨records, ⟨-, rfl⟩ | ⟨-, rfl⟩⟩ := h
  · exact noteRecords engine records
  · exact of_eq rfl rfl rfl rfl rfl (List.subset_append_right _ _)

end Unmoved

/-- A change that moves nothing keeps what is over. -/
theorem upholds_of_unmoved {change : Engine → Engine} (h : ∀ engine, Unmoved engine (change engine)) :
    Upholds finality (Operation.modify change : Act Unit) :=
  upholds_modify fun engine htidy => (h engine).finality htidy

/-- Writing a record keeps the guarantee. -/
theorem upholds_log (level : Level) (source : Source) (message : Text) (fault : Option Fault) :
    Upholds finality (log level source message fault) :=
  upholds_of_unmoved fun engine => .note engine _

/-! ## Sweeps -/

/-- Reading the size keeps the guarantee. -/
theorem upholds_readSize : Upholds finality readSize := by
  refine upholds_get.bind fun engine => ?_
  split
  · exact (upholds_log _ _ _ _).bind fun _ => upholds_pure _
  · exact (upholds_lift _).bind fun _ => (upholds_lift _).bind fun _ => upholds_pure _

/-- Asking the host for its preferences keeps the guarantee. -/
theorem upholds_readHost : Upholds finality readHost := by
  refine upholds_get.bind fun engine => ?_
  split
  · exact upholds_pure _
  · exact (upholds_log _ _ _ _).bind fun _ => upholds_pure _

/-- A call of a listener keeps the guarantee. -/
theorem upholds_tell (role : Text) (number : Nat) (event : ChangeEvent) (listener : Listener) :
    Upholds finality (tell role number event listener) := by
  refine (upholds_of_unmoved fun engine => ?_).bind fun _ => (upholds_call _).bind fun reply => ?_
  · exact .of_eq rfl rfl rfl rfl rfl
      (List.Subset.trans (List.subset_cons_self _ _) (List.subset_cons_self _ _))
  · cases reply with
    | ok result => exact upholds_pure ()
    | error fault => exact upholds_log _ _ _ _

/-- A dispatch keeps the guarantee. -/
theorem upholds_dispatch (number : Nat) (event : ChangeEvent) :
    Upholds finality (dispatch number event) := by
  have hlisteners : Upholds finality (tellListeners number event) := by
    refine upholds_get.bind fun engine => ?_
    split
    · exact upholds_forAll (upholds_tell _ number event) _
    · exact upholds_pure ()
  refine upholds_get.bind fun engine => ?_
  dsimp only
  split
  · exact (upholds_tell _ number event _).bind fun _ => hlisteners
  · exact hlisteners

/-- A handle that is not detached may be given another answer. -/
theorem finality_changeAnswer {number : Nat} {handle : Handle}
    (hhandle : engine.handle? number = some handle) (hattached : handle.isDetached = false)
    (htidy : IsTidy engine) (isMatch : Bool) :
    IsTidy (engine.changeAnswer number isMatch) ∧
      StaysOver engine (engine.changeAnswer number isMatch) := by
  have hchanged : ∀ other, (engine.changeAnswer number isMatch).handle? other =
      if number = other then (engine.handle? other).map ({ · with isMatch }) else
        engine.handle? other := fun other => handle?_changeHandle engine number other _
  constructor
  · refine ⟨htidy.paced, htidy.observing, ?_, ?_⟩
    · exact fun hobserving => (htidy.stopped hobserving).imp_right (List.mem_cons_of_mem _)
    · intro other changed hother hlive
      rw [hchanged] at hother
      split at hother
      · next hsame =>
        subst hsame
        exact htidy.live number handle hhandle hattached
      · exact htidy.live other changed hother hlive
  · refine ⟨?_, fun hobserving => ⟨hobserving, rfl⟩, fun _ hpending => ⟨hpending, rfl⟩,
      List.subset_cons_self _ _⟩
    intro other kept hkept hdetached
    refine ⟨kept, ?_, hdetached, rfl⟩
    rw [hchanged, if_neg, hkept]
    rintro rfl
    rw [hhandle] at hkept
    cases hkept
    rw [hattached] at hdetached
    cases hdetached

/-- Bringing the answer of a handle up to date touches no detached one. -/
theorem upholds_updateHandle (size : Extent × Extent) (host : Preferences) (number : Nat) :
    Upholds finality (updateHandle size host number) := by
  intro engine htidy
  have hsame : finality.Valid engine ∧ finality.Step engine engine := ⟨htidy, .refl engine⟩
  simp only [updateHandle, get_bind]
  cases hhandle : engine.handle? number with
  | none => exact hsame
  | some handle =>
    cases hquery : handle.query with
    | none =>
      simp only [hquery]
      exact hsame
    | some query =>
      cases hdetached : handle.isDetached with
      | true =>
        simp only [hquery, hdetached, if_true]
        exact hsame
      | false =>
        simp only [hquery, hdetached, Bool.false_eq_true, if_false]
        cases hanswer : query.evaluate (engine.surroundings size host) with
        | error fault =>
          have hfault : answer query size host engine = .done (.error fault) engine := by
            simp only [answer, get_bind, hanswer, lift_apply]
          rw [bind_of_fault hfault]
          exact hsame
        | ok isMatch =>
          have hresult : answer query size host engine = .done (.ok isMatch) engine := by
            simp only [answer, get_bind, hanswer, lift_apply]
          rw [bind_of_done hresult]
          split
          · exact hsame
          · obtain ⟨htidy, hstep⟩ := finality_changeAnswer hhandle hdetached htidy isMatch
            rw [modify_bind]
            apply Dialogue.Moves.after hstep
            refine ((upholds_dispatch number _).bind fun _ => ?_) _ htidy
            exact upholds_of_unmoved fun engine => .note engine _

/-- A pass keeps the guarantee. -/
theorem upholds_pass : Upholds finality pass := by
  refine (upholds_of_unmoved fun engine => ?_).bind fun _ => upholds_readSize.bind fun size => ?_
  · exact .of_eq rfl rfl rfl rfl rfl (List.subset_cons_self _ _)
  · cases size with
    | none => exact upholds_pure ()
    | some size =>
      exact upholds_readHost.bind fun host => upholds_get.bind fun engine =>
        upholds_forAll (upholds_updateHandle size host) _

/-- Each row of passes keeps the guarantee. -/
theorem upholds_passes (reason : SweepReason) (allowed count : Nat) :
    Upholds finality (passes reason allowed count) := by
  induction allowed generalizing count with
  | zero =>
    refine upholds_pass.bind fun _ => upholds_get.bind fun engine => ?_
    split
    · refine (upholds_of_unmoved fun engine => .note engine _).bind fun _ => ?_
      exact upholds_of_unmoved fun engine => .of_eq rfl rfl rfl rfl rfl (List.Subset.refl _)
    · exact upholds_pure ()
  | succ allowed ih =>
    refine upholds_pass.bind fun _ => upholds_get.bind fun engine => ?_
    split
    · exact ih (count + 1)
    · exact upholds_pure ()

/-- The passes of a sweep keep the guarantee, whatever their limit. -/
theorem upholds_allPasses (reason : SweepReason) (limit : FollowUpLimit) :
    Upholds finality (allPasses reason limit) := by
  cases limit with
  | atMost bound => exact upholds_passes reason bound.toNat 0
  | incomparable =>
    refine upholds_pass.bind fun _ => upholds_get.bind fun engine => ?_
    split
    · exact upholds_fail _
    · exact upholds_pure ()

/-- A sweep touches nothing that is over, whatever its listeners do meanwhile. -/
theorem upholds_sweep (reason : SweepReason) : Upholds finality (sweep reason) := by
  refine upholds_get.bind fun engine => ?_
  split
  · exact upholds_of_unmoved fun engine => .of_eq rfl rfl rfl rfl rfl (List.Subset.refl _)
  · refine (upholds_of_unmoved fun engine => ?_).bind fun _ => ?_
    · exact .of_eq rfl rfl rfl rfl rfl (List.subset_cons_self _ _)
    · apply (upholds_allPasses reason engine.followUps).ensuring
      intro engine htidy
      exact Unmoved.finality (.of_eq rfl rfl rfl rfl rfl (List.subset_cons_self _ _)) htidy

/-! ## Queries and bindings -/

/-- A new handle is registered under a name that no handle has. -/
theorem finality_register {handle : Handle} (hnew : engine.registry.get? handle.media = none)
    (htidy : IsTidy engine) :
    IsTidy (engine.register handle) ∧ StaysOver engine (engine.register handle) := by
  have hregistered : (engine.register handle).registered =
      engine.registered ++ [engine.handles.length] := by
    show (engine.registry.insert handle.media engine.handles.length).entries.map (·.2) = _
    rw [Dict.entries_insert hnew, List.map_append]
    rfl
  constructor
  · refine ⟨htidy.paced, htidy.observing, ?_, ?_⟩
    · exact fun hobserving => (htidy.stopped hobserving).imp_right (List.mem_cons_of_mem _)
    · intro number other hother hattached
      rw [handle?_register] at hother
      rw [hregistered, List.mem_append]
      split at hother
      · next hlast => exact .inr (List.mem_singleton.2 hlast)
      · exact .inl (htidy.live number other hother hattached)
  · refine ⟨?_, fun hobserving => ⟨hobserving, rfl⟩, fun _ hpending => ⟨hpending, rfl⟩,
      List.subset_cons_self _ _⟩
    intro number other hother hdetached
    refine ⟨other, ?_, hdetached, rfl⟩
    obtain ⟨hnumber, -⟩ := List.getElem?_eq_some_iff.1 hother
    rw [handle?_register, if_neg (Nat.ne_of_lt hnumber), hother]

/-- Asking for a query keeps the guarantee. -/
theorem upholds_matchMedia (query : Value) : Upholds finality (matchMedia query) := by
  intro engine htidy
  have hends : (matchMedia query engine).Keeps Contract.silent fun _ after =>
      IsTidy after ∧ StaysOver engine after := by
    apply keeps_matchMedia
    · exact fun _ => ⟨htidy, .refl engine⟩
    · exact fun _ _ => ⟨htidy, .refl engine⟩
    · exact fun _ _ _ hrecalls => (Unmoved.recalls hrecalls).finality htidy
    · intro tree read isMatch hnew hrecalls _
      obtain ⟨hread, hstep⟩ := (Unmoved.recalls hrecalls).finality htidy
      have hunregistered : read.registry.get? query.display = none := by
        obtain ⟨records, ⟨-, rfl⟩ | ⟨-, rfl⟩⟩ := hrecalls <;> exact hnew
      apply And.imp_right hstep.trans
      exact finality_register hunregistered hread
  obtain ⟨outcome, after, hdone, hafter⟩ := hends.exists_done
  rw [hdone]
  exact hafter

/-- A delivery to a receiver keeps the guarantee. -/
theorem upholds_deliver (binding : Nat) (receiver : Text) (isMatch : Bool) :
    Upholds finality (deliver binding receiver isMatch) :=
  (upholds_of_unmoved fun engine => .note engine _).bind fun _ => upholds_callOrFail _

/-- Binding a receiver keeps the guarantee. -/
theorem upholds_bind (query : Value) (receiver : Text) : Upholds finality (bind query receiver) := by
  refine upholds_get.bind fun engine => (upholds_of_unmoved fun engine => ?_).bind fun _ =>
    (upholds_matchMedia query).attempt.bind fun outcome => ?_
  · exact .of_eq rfl rfl rfl rfl rfl (List.Subset.refl _)
  · cases outcome with
    | error fault =>
      refine (upholds_of_unmoved fun engine => ?_).bind fun _ =>
        (upholds_deliver _ _ _).bind fun _ => upholds_pure _
      obtain ⟨records, hrecorded, -⟩ := exists_recordRefusal engine query fault
      rw [hrecorded]
      exact .noteRecords engine records
    | ok number =>
      refine upholds_get.bind fun engine => (upholds_deliver _ _ _).bind fun _ =>
        (upholds_of_unmoved fun engine => .listenTo engine _ _ _).bind fun _ =>
          (upholds_of_unmoved fun engine => ?_).bind fun _ => upholds_pure _
      exact .of_eq rfl rfl rfl rfl rfl (List.subset_cons_self _ _)

/-- Ending a binding moves nothing. -/
theorem Unmoved.unbind (engine : Engine) (binding : Nat) : Unmoved engine (engine.unbind binding) := by
  rw [Engine.unbind]
  split
  · exact .unlistenTo engine _ _ _
  · exact .refl engine

/-! ## Sizes and frames -/

/-- A change of the pacer that leaves exactly the pending frame scheduled. -/
theorem finality_pacer {pacer : Pacer} (htidy : IsTidy engine) (hpaced : pacer.IsExact)
    (hunpaced : engine.isObserving = false → engine.pacer.isPending = false →
      pacer.isPending = false ∧ pacer.frames.issued = engine.pacer.frames.issued) :
    IsTidy { engine with pacer } ∧ StaysOver engine { engine with pacer } :=
  ⟨⟨hpaced, htidy.observing, htidy.stopped, htidy.live⟩,
    ⟨(StaysOver.refl engine).detached, fun hobserving => ⟨hobserving, rfl⟩, hunpaced,
      List.Subset.refl _⟩⟩

/-- An engine that is told of a new size asks for a frame while it observes its viewport. -/
theorem finality_sizeChanged (htidy : IsTidy engine) :
    IsTidy engine.sizeChanged ∧ StaysOver engine engine.sizeChanged := by
  rw [sizeChanged]
  split
  · next hobserving =>
    apply finality_pacer htidy htidy.paced.request
    intro hstopped
    rw [hobserving] at hstopped
    cases hstopped
  · exact ⟨htidy, .refl engine⟩

/-- A viewport of another size keeps the guarantee. -/
theorem finality_resize (htidy : IsTidy engine) (width height : Extent) :
    IsTidy (engine.resize width height) ∧ StaysOver engine (engine.resize width height) := by
  have htold : ∀ (observers : List Unit) (told : Engine), IsTidy told → StaysOver engine told →
      IsTidy (observers.foldl (fun engine _ => engine.sizeChanged) told) ∧
        StaysOver engine (observers.foldl (fun engine _ => engine.sizeChanged) told) := by
    intro observers
    induction observers with
    | nil => exact fun told hvalid hstep => ⟨hvalid, hstep⟩
    | cons observer observers ih =>
      intro told hvalid hstep
      obtain ⟨hnext, hchanged⟩ := finality_sizeChanged hvalid
      exact ih told.sizeChanged hnext (hstep.trans hchanged)
  apply htold
  · exact ⟨htidy.paced, htidy.observing, htidy.stopped, htidy.live⟩
  · exact ⟨(StaysOver.refl engine).detached, fun hobserving => ⟨hobserving, rfl⟩,
      fun _ hpending => ⟨hpending, rfl⟩, List.Subset.refl _⟩

/-- Nothing is due, or the pending frame is, and it leaves the schedule empty. -/
theorem due_cases (hpaced : engine.pacer.IsExact) (limit : Option Int) :
    engine.pacer.frames.due limit = [] ∧ engine.takeDue limit = engine ∨
      engine.pacer.isPending = true ∧ (∃ frame, engine.pacer.frames.due limit = [frame]) ∧
        (engine.takeDue limit).pacer.frames.scheduled = [] := by
  refine (hpaced.due_cases limit).imp_left (And.imp_right fun hkept => ?_)
  rw [takeDue, hkept]

/-- The pending frame starts when it has left the schedule. -/
theorem finality_startFrame {limit : Option Int} (htidy : IsTidy engine)
    (hpending : engine.pacer.isPending = true)
    (hleft : (engine.takeDue limit).pacer.frames.scheduled = []) :
    IsTidy (engine.takeDue limit).startFrame ∧ StaysOver engine (engine.takeDue limit).startFrame := by
  have hstarted := finality_pacer htidy (Pacer.isExact_start hleft) (by simp [hpending])
  have hnoted := (Unmoved.noteRecords _ (engine.takeDue limit).pacer.startRecords).finality hstarted.1
  exact ⟨hnoted.1, hstarted.2.trans hnoted.2⟩

/-- A task that has left the schedule starts the pending frame. -/
theorem runFrame_takeDue (limit : Option Int) (hpending : engine.pacer.isPending = true) :
    runFrame (engine.takeDue limit) = sweep .resize (engine.takeDue limit).startFrame := by
  have hstill : (engine.takeDue limit).pacer.isPending = true := hpending
  simp only [runFrame, get_bind, hstill, if_true, modify_bind]

/-- A flush of the frames keeps the guarantee. -/
theorem upholds_flush (limit : Option Int) : Upholds finality (flush limit) := by
  intro engine htidy
  simp only [flush, get_bind, modify_bind]
  obtain ⟨hdue, hkept⟩ | ⟨hpending, ⟨frame, hdue⟩, hleft⟩ := due_cases htidy.paced limit
  · rw [hdue, hkept]
    exact ⟨htidy, StaysOver.refl engine⟩
  · obtain ⟨hstarted, hstep⟩ := finality_startFrame htidy hpending hleft
    have hframe : (runFrame (engine.takeDue limit)).Moves finality engine := by
      rw [runFrame_takeDue limit hpending]
      exact (upholds_sweep .resize _ hstarted).after hstep
    rw [hdue, forAll, bind_assoc]
    apply hframe.andThen
    intro outcome after htidy
    cases outcome with
    | error fault => exact ⟨htidy, StaysOver.refl after⟩
    | ok result => exact ⟨htidy, StaysOver.refl after⟩

/-- Setting overrides keeps the guarantee. -/
theorem upholds_setOverrides (values : Dict Value) : Upholds finality (setOverrides values) := by
  refine upholds_get.bind fun engine => ?_
  cases Overrides.fault? engine.room values with
  | some fault =>
    exact (upholds_of_unmoved fun engine => .noteRecords engine _).bind fun _ => upholds_fail fault
  | none =>
    refine (upholds_of_unmoved fun engine => ?_).bind fun _ => upholds_sweep .overrides
    exact .of_eq rfl rfl rfl rfl rfl (List.subset_append_right _ _)

/-! ## The end of an engine -/

/-- The engine when it has been destroyed. -/
def tearDown (engine : Engine) : Engine :=
  engine.stopObserving.cancelFrame.detachAll.markDestroyed

/-- What is left of an engine when it has stopped observing. -/
theorem finality_stopObserving (htidy : IsTidy engine) :
    IsTidy engine.stopObserving ∧ StaysOver engine engine.stopObserving := by
  rw [stopObserving]
  split
  · next hobserving =>
    have hobservers := htidy.observing hobserving
    have hwas : ∀ {p : Prop}, engine.isObserving = false → p := by
      intro p hstopped
      rw [hobserving] at hstopped
      cases hstopped
    dsimp only
    split
    · exact ⟨⟨htidy.paced, by simp [Engine.note], fun _ => .inr List.mem_cons_self, htidy.live⟩,
        ⟨(StaysOver.refl engine).detached, hwas, hwas, List.subset_cons_self _ _⟩⟩
    · refine ⟨⟨htidy.paced, by simp, fun _ => .inl ?_, htidy.live⟩,
        ⟨(StaysOver.refl engine).detached, hwas, hwas, List.Subset.refl _⟩⟩
      show engine.viewport.observers.erase () = []
      rw [hobservers]
      rfl
  · exact ⟨htidy, .refl engine⟩

/-- An engine that stops observing is not observing. -/
theorem isObserving_stopObserving (engine : Engine) : engine.stopObserving.isObserving = false := by
  rw [stopObserving]
  split
  · dsimp only
    split <;> rfl
  · next hstopped => simpa using hstopped

/-- No frame is pending after a cancellation. -/
theorem pending_cancel (pacer : Pacer) : pacer.cancel.coalescer.pending = none := by
  rw [Pacer.cancel]
  split
  · next hnone => exact hnone
  · rfl

/-- Giving up the pending frame schedules none. -/
theorem finality_cancelFrame (htidy : IsTidy engine) :
    IsTidy engine.cancelFrame ∧ StaysOver engine engine.cancelFrame := by
  apply finality_pacer htidy htidy.paced.cancel
  intro _ _
  constructor
  · rw [Pacer.isPending, Coalescer.isPending, pending_cancel, Option.isSome_none]
  · rw [Pacer.cancel]
    split <;> rfl

/-- The handles after all of them were detached: those that were registered are detached now. -/
theorem handle?_detachAll (engine : Engine) (number : Nat) :
    engine.detachAll.handle? number = (engine.handle? number).map fun handle =>
      if number ∈ engine.registered then { handle with isDetached := true } else handle := by
  simp only [handle?, detachAll, List.getElem?_mapIdx]
  rfl

/-- Every handle of a tidy engine is detached with the registered ones. -/
theorem isDetached_detachAll (htidy : IsTidy engine) {number : Nat} {handle : Handle}
    (hhandle : engine.detachAll.handle? number = some handle) : handle.isDetached = true := by
  rw [handle?_detachAll, Option.map_eq_some_iff] at hhandle
  obtain ⟨earlier, hearlier, rfl⟩ := hhandle
  split
  · rfl
  · next hunregistered =>
    cases hdetached : earlier.isDetached with
    | true => rfl
    | false => exact absurd (htidy.live number earlier hearlier hdetached) hunregistered

/-- Detaching all handles keeps the guarantee. -/
theorem finality_detachAll (htidy : IsTidy engine) :
    IsTidy engine.detachAll ∧ StaysOver engine engine.detachAll := by
  constructor
  · refine ⟨htidy.paced, htidy.observing, htidy.stopped, ?_⟩
    intro number handle hhandle hattached
    rw [isDetached_detachAll htidy hhandle] at hattached
    cases hattached
  · refine ⟨?_, fun hobserving => ⟨hobserving, rfl⟩, fun _ hpending => ⟨hpending, rfl⟩,
      List.Subset.refl _⟩
    intro number handle hhandle hdetached
    refine ⟨_, by rw [handle?_detachAll, hhandle, Option.map_some], ?_, ?_⟩
    · split
      · rfl
      · exact hdetached
    · split <;> rfl

/-- The mark of destruction moves nothing. -/
theorem unmoved_markDestroyed (engine : Engine) : Unmoved engine engine.markDestroyed := by
  rw [markDestroyed]
  split
  · exact .refl engine
  · exact .of_eq rfl rfl rfl rfl rfl (List.subset_cons_self _ _)

/-- Destruction keeps the guarantee. -/
theorem finality_tearDown (htidy : IsTidy engine) :
    IsTidy engine.tearDown ∧ StaysOver engine engine.tearDown := by
  obtain ⟨hstopped, hfirst⟩ := finality_stopObserving htidy
  obtain ⟨hcancelled, hsecond⟩ := finality_cancelFrame hstopped
  obtain ⟨hdetached, hthird⟩ := finality_detachAll hcancelled
  obtain ⟨hmarked, hlast⟩ := (unmoved_markDestroyed _).finality hdetached
  exact ⟨hmarked, ((hfirst.trans hsecond).trans hthird).trans hlast⟩

/-- A change that calls no one leaves over what is over. -/
theorem finality_change {request : Request} {change : Engine → Engine}
    (h : request.change? = some change) (htidy : IsTidy engine) :
    IsTidy (change engine) ∧ StaysOver engine (change engine) := by
  have hswitch : ∀ {after : Engine}, Unmoved engine after → IsTidy after ∧ StaysOver engine after :=
    fun hunmoved => hunmoved.finality htidy
  cases request <;> cases h
  case addListener number listener => exact hswitch (.listen engine number listener)
  case removeListener number listener => exact hswitch (.unlisten engine number listener)
  case addEventListener number type listener => exact hswitch (.listenTo engine number type listener)
  case removeEventListener number type listener =>
    exact hswitch (.unlistenTo engine number type listener)
  case setOnChange number listener =>
    apply hswitch
    apply Unmoved.changeHandle
    exact fun _ => rfl
  case unbind binding => exact hswitch (.unbind engine binding)
  case setSize width height => exact finality_resize htidy width height
  case destroy => exact finality_tearDown htidy
  case setHost host => exact hswitch (.of_eq rfl rfl rfl rfl rfl (List.Subset.refl _))
  case failSize fails => exact hswitch (.of_eq rfl rfl rfl rfl rfl (List.Subset.refl _))
  case failUnobserve fails => exact hswitch (.of_eq rfl rfl rfl rfl rfl (List.Subset.refl _))
  case setRawSize value => exact hswitch (.of_eq rfl rfl rfl rfl rfl (List.Subset.refl _))
  case setRoom room => exact hswitch (.of_eq rfl rfl rfl rfl rfl (List.Subset.refl _))

/-- Every request to an engine leaves over what is over. -/
theorem upholds_perform (request : Request) : Upholds finality (perform request) := by
  cases hchange : request.change? with
  | some change =>
    rw [perform_of_change hchange]
    exact (upholds_modify fun engine htidy => finality_change hchange htidy).map _
  | none =>
    cases request with
    | matchMedia query => exact (upholds_matchMedia query).map _
    | bind query receiver => exact (upholds_bind query receiver).map _
    | flush limit => exact (upholds_flush limit).map _
    | setOverrides values => exact (upholds_setOverrides values).map _
    | _ => cases hchange

/-- A new engine is tidy. -/
theorem isTidy_create (options : EngineOptions) : IsTidy (create options) where
  paced := Pacer.isExact_create options.frameInterval
  observing _ := rfl
  stopped hstopped := by cases hstopped
  live _ _ hnone := by cases hnone

/-- An engine is tidy at every moment of a session. -/
theorem upheld_sessionAfter (options : EngineOptions) (moves : List (Move Request (Except Fault Unit))) :
    (sessionAfter options moves).Upheld finality :=
  ((Session.upheld_new (isTidy_create options)).run upholds_perform moves).1

end Breakpoint.Engine
