import Breakpoint.Proofs.CommandLine.Reference
import Breakpoint.Proofs.Engine.Freshness

/-!
# Engines under a host that only listens

For a host that listens and runs nothing meanwhile, an operation is a function of the engine: its
outcome, the events of which it told, and the engine after it. The rules here follow the ways in
which operations are put together, up to the sweep of a frame.
-/

namespace Breakpoint

/-- Callbacks of a dialogue that goes on come in order. -/
theorem Dialogue.settle_andThen {σ κ ρ α β : Type} (reply : ρ) (dialogue : Dialogue σ κ ρ α)
    (next : Except Fault α → σ → Dialogue σ κ ρ β) :
    (dialogue.andThen next).settle reply =
      ((dialogue.settle reply).1 ++
          ((next (dialogue.settle reply).2.1 (dialogue.settle reply).2.2).settle reply).1,
        ((next (dialogue.settle reply).2.1 (dialogue.settle reply).2.2).settle reply).2) := by
  induction dialogue with
  | done outcome state => rfl
  | call callback state resume ih => simp only [andThen, settle, ih, List.cons_append]

namespace CommandLine

open Operation

variable {α β : Type} {engine middle after : Engine} {before : Surroundings} {queries : List Text}

/-! ## How operations are put together -/

/-- An operation that ends at once tells of nothing. -/
theorem listen_of_done {operation : Engine.Act α} {outcome : Except Fault α}
    (h : operation engine = .done outcome after) : listen operation engine = (outcome, [], after) := by
  rw [listen, h]
  rfl

/-- Only what an operation does from here on counts. -/
theorem listen_congr {first second : Engine.Act α} (h : first engine = second middle) :
    listen first engine = listen second middle := by
  rw [listen, h]
  rfl

/-- What is told of by two operations in a row. -/
theorem listen_bind {first : Engine.Act α} {next : α → Engine.Act β} {result : α}
    {outcome : Except Fault β} {events more : List ChangeEvent}
    (hfirst : listen first engine = (.ok result, events, middle))
    (hnext : listen (next result) middle = (outcome, more, after)) :
    listen (first >>= next) engine = (outcome, events ++ more, after) := by
  simp only [listen, Prod.mk.injEq] at hfirst hnext
  obtain ⟨houtcome, hevents, hmiddle⟩ := hfirst
  obtain ⟨hlast, hmore, hafter⟩ := hnext
  have hsettle : ((first >>= next) engine).settle (.ok ()) =
      (((first engine).settle (.ok ())).1 ++ ((next result middle).settle (.ok ())).1,
        ((next result middle).settle (.ok ())).2) := by
    show ((first engine).andThen _).settle _ = _
    rw [Dialogue.settle_andThen, houtcome, hmiddle]
  simp only [listen, hsettle, List.filterMap_append, hevents, hmore, hlast, hafter]

/-- A change after what was listened to adds no events. -/
theorem listen_then_modify {first : Engine.Act α} {result : α} {events : List ChangeEvent}
    (h : listen first engine = (.ok result, events, middle)) (change : Engine → Engine) :
    listen (first >>= fun _ => Operation.modify change) engine = (.ok (), events, change middle) := by
  rw [listen_bind h (listen_of_done (modify_apply change middle)), List.append_nil]

/-- What an operation does for sure at its end tells of nothing. -/
theorem listen_ensuring {operation : Engine.Act α} {change : Engine → Engine}
    {outcome : Except Fault α} {events : List ChangeEvent}
    (h : listen operation engine = (outcome, events, after)) :
    listen (operation.ensuring change) engine = (outcome, events, change after) := by
  simp only [listen, Prod.mk.injEq] at h
  obtain ⟨houtcome, hevents, hafter⟩ := h
  have hsettle : ((operation.ensuring change) engine).settle (.ok ()) =
      (((operation engine).settle (.ok ())).1, outcome, change after) := by
    rw [ensuring, Dialogue.settle_andThen, houtcome, hafter, Dialogue.settle, List.append_nil]
  simp only [listen, hsettle, hevents]

/-! ## Telling of changes -/

/-- The engine with other handles and another journal. -/
def withHandles (engine : Engine) (handles : List Handle) (journal : List Entry) : Engine :=
  { engine with handles, journal }

/-- A live handle with the one listener of a command. -/
structure IsHeard (handle : Handle) : Prop where
  onChange : handle.onChange = none
  listeners : handle.listeners = [changesListener]
  attached : handle.isDetached = false

/-- The one listener is told of an event. -/
theorem listen_dispatch {number : Nat} {handle : Handle} (hhandle : engine.handle? number = some handle)
    (hheard : IsHeard handle) (event : ChangeEvent) :
    listen (Engine.dispatch number event) engine =
      (.ok (), [event], engine.noteTold number event changesListener) := by
  have hslot : (engine.handle? number).bind (·.onChange) = none := by
    rw [hhandle, Option.bind_some, hheard.onChange]
  have hdispatch : Engine.dispatch number event engine =
      forAll (Engine.tell "listener" number event) [changesListener] engine := by
    simp only [Engine.dispatch, get_bind, hslot, Engine.tellListeners]
    rw [hhandle]
    simp only [hheard.listeners]
  rw [listen_congr hdispatch]
  rfl

/-- The handle after the first ones. -/
theorem handle?_append_cons {front back : List Handle} {handle : Handle}
    (h : engine.handles = front ++ handle :: back) : engine.handle? front.length = some handle := by
  rw [Engine.handle?, h, List.getElem?_append_right (Nat.le_refl _), Nat.sub_self]
  rfl

/-- Changing the member after the first ones. -/
theorem modify_append_cons (front back : List Handle) (handle : Handle) (change : Handle → Handle) :
    (front ++ handle :: back).modify front.length change = front ++ change handle :: back := by
  induction front with
  | nil => rfl
  | cons first front ih =>
    rw [List.cons_append, List.length_cons, List.modify_succ_cons, ih, List.cons_append]

/-- Bringing a handle up to date does nothing if its answer is the same, and else changes the answer
and tells of it. -/
theorem updateHandle_eq {size : Extent × Extent} {host : Preferences} {number : Nat} {handle : Handle}
    {query : Query} {isMatch : Bool} (hhandle : engine.handle? number = some handle)
    (hattached : handle.isDetached = false) (hquery : handle.query = some query)
    (hanswer : query.evaluate (engine.surroundings size host) = .ok isMatch) :
    Engine.updateHandle size host number engine =
      if isMatch = handle.isMatch then .done (.ok ()) engine
      else
        (Engine.dispatch number ⟨isMatch, handle.media⟩ >>=
          fun _ => Operation.modify (·.note (.dispatchEnded number)))
          (engine.changeAnswer number isMatch) := by
  have hread : Engine.answer query size host engine = .done (.ok isMatch) engine := by
    simp only [Engine.answer, get_bind, hanswer, lift_apply]
  have hlive : ¬ handle.isDetached = true := by
    rw [hattached]
    exact Bool.false_ne_true
  simp only [Engine.updateHandle, get_bind, hhandle, hquery, if_neg hlive]
  rw [bind_of_done hread]
  split <;> rfl

/-- A handle is brought up to date, and its listener is told if the answer changes. -/
theorem listen_updateHandle {size : Extent × Extent} {host : Preferences} {front back : List Handle}
    {handle : Handle} {query : Query} {isMatch : Bool}
    (hhandles : engine.handles = front ++ handle :: back) (hheard : IsHeard handle)
    (hquery : handle.query = some query)
    (hanswer : query.evaluate (engine.surroundings size host) = .ok isMatch) :
    ∃ journal, listen (Engine.updateHandle size host front.length) engine =
      (.ok (), if isMatch = handle.isMatch then [] else [⟨isMatch, handle.media⟩],
        withHandles engine (front ++ { handle with isMatch } :: back) journal) := by
  have hhandle := handle?_append_cons hhandles
  have hupdate := updateHandle_eq hhandle hheard.attached hquery hanswer
  by_cases hsame : isMatch = handle.isMatch
  · rw [if_pos hsame] at hupdate
    refine ⟨engine.journal, ?_⟩
    rw [listen_of_done hupdate, if_pos hsame, hsame, ← hhandles]
    rfl
  · rw [if_neg hsame] at hupdate
    have hchanged : (engine.changeAnswer front.length isMatch).handles =
        front ++ { handle with isMatch } :: back := by
      show engine.handles.modify _ _ = _
      rw [hhandles, modify_append_cons]
    have hheard' : IsHeard { handle with isMatch } := ⟨hheard.onChange, hheard.listeners, hheard.attached⟩
    have htold := listen_dispatch (handle?_append_cons hchanged) hheard' ⟨isMatch, handle.media⟩
    rw [listen_congr hupdate, listen_then_modify htold, if_neg hsame, ← hchanged]
    exact ⟨_, rfl⟩

/-! ## Sweeps -/

/-- The handle that a command has for a text, with the answer in some surroundings. -/
def handleAt (surroundings : Surroundings) (media : Text) : Handle :=
  { media
    query := Query.parse? media
    isMatch := (answerOf surroundings media).getD false
    listeners := [changesListener] }

/-- What queries are evaluated against now. -/
def present (engine : Engine) : Surroundings := engine.surroundings engine.size engine.preferences

/-- The host tells its size and its preferences. -/
structure IsTold (engine : Engine) : Prop where
  provider : engine.provider = {}
  host : ∃ preferences, engine.host = .known preferences

/-- An engine that is told the size reads it. -/
theorem IsTold.readSize (h : IsTold engine) :
    Engine.readSize engine = .done (.ok (some engine.size)) engine := by
  have hsize : engine.providedSize = .ok (.ok engine.viewport.width, .ok engine.viewport.height) := by
    rw [Engine.providedSize, h.provider]
    rfl
  simp only [Engine.readSize, get_bind, hsize]
  rfl

/-- An engine that is told the preferences of the host reads them. -/
theorem IsTold.readHost (h : IsTold engine) :
    Engine.readHost engine = .done (.ok engine.preferences) engine := by
  obtain ⟨preferences, hhost⟩ := h.host
  simp only [Engine.readHost, get_bind, hhost]
  rfl

/-- The handle of a text is brought up to date. -/
theorem listen_updateHandleAt (size : Extent × Extent) (host : Preferences) {front back : List Handle}
    {media : Text} (hhandles : engine.handles = front ++ handleAt before media :: back) :
    ∃ journal, listen (Engine.updateHandle size host front.length) engine =
      (.ok (), (change? before (engine.surroundings size host) media).toList,
        withHandles engine (front ++ handleAt (engine.surroundings size host) media :: back) journal) := by
  cases hparse : Query.parse? media with
  | none =>
    have hhandle := handle?_append_cons hhandles
    have hquery : (handleAt before media).query = none := hparse
    have hdone : Engine.updateHandle size host front.length engine = .done (.ok ()) engine := by
      simp only [Engine.updateHandle, get_bind, hhandle, hquery]
      rfl
    have hsame : handleAt (engine.surroundings size host) media = handleAt before media := by
      simp only [handleAt, answerOf_eq_none hparse]
    refine ⟨engine.journal, ?_⟩
    rw [listen_of_done hdone, change?_eq_none hparse, hsame, ← hhandles]
    rfl
  | some query =>
    obtain ⟨old, hold⟩ := exists_answerOf hparse before
    obtain ⟨new, hnew⟩ := exists_answerOf hparse (engine.surroundings size host)
    have hanswer := evaluate_eq_answerOf hparse (engine.surroundings size host)
    obtain ⟨journal, hlisten⟩ := listen_updateHandle hhandles ⟨rfl, rfl, rfl⟩ hparse hanswer
    refine ⟨journal, hlisten.trans ?_⟩
    simp only [handleAt, change?_eq_ite hold hnew, hold, hnew, Option.getD_some]
    split <;> rfl

/-- The handles of some texts are brought up to date, one after the other. The handles before them
are those that were visited already, and keep their answers. -/
theorem listen_updateAll {size : Extent × Extent} {host : Preferences} (rest : List Text)
    (front : List Handle) (engine : Engine)
    (hhandles : engine.handles = front ++ rest.map (handleAt before)) :
    ∃ journal, listen (forAll (Engine.updateHandle size host)
        (List.range' front.length rest.length)) engine =
      (.ok (), rest.filterMap (change? before (engine.surroundings size host)),
        withHandles engine (front ++ rest.map (handleAt (engine.surroundings size host))) journal) := by
  induction rest generalizing front engine with
  | nil =>
    refine ⟨engine.journal, ?_⟩
    rw [List.map_nil] at hhandles ⊢
    rw [← hhandles]
    rfl
  | cons media rest ih =>
    obtain ⟨journal, hfirst⟩ := listen_updateHandleAt size host hhandles
    -- The handle that was visited joins those in front, and the next number is one more.
    obtain ⟨last, hrest⟩ := ih (front ++ [handleAt (engine.surroundings size host) media])
      (withHandles engine _ journal) (List.append_cons _ _ _)
    rw [List.length_append, List.length_singleton, ← List.append_cons] at hrest
    refine ⟨last, ?_⟩
    rw [List.length_cons, List.range'_succ, forAll, listen_bind hfirst hrest, List.filterMap_cons]
    cases change? before (engine.surroundings size host) media <;> rfl

/-- The engine after a pass or a sweep that brought the handles of some texts up to date. -/
def refreshed (engine : Engine) (queries : List Text) (journal : List Entry) : Engine :=
  { engine with
    handles := queries.map (handleAt (present engine)), followUpRequested := false, journal }

/-- One pass tells of every text that answers otherwise than before, and asks for no further one. -/
theorem listen_pass (htold : IsTold engine) (hhandles : engine.handles = queries.map (handleAt before))
    (hregistered : engine.registered = List.range queries.length) :
    ∃ journal, listen Engine.pass engine =
      (.ok (), queries.filterMap (change? before (present engine)), refreshed engine queries journal) := by
  have hbegun : IsTold engine.beginPass := ⟨htold.provider, htold.host⟩
  have hrun : Engine.pass engine = forAll (Engine.updateHandle engine.size engine.preferences)
      (List.range' 0 queries.length) engine.beginPass := by
    simp only [Engine.pass, modify_bind]
    rw [bind_of_done hbegun.readSize]
    simp only
    rw [bind_of_done hbegun.readHost, get_bind, ← List.range_eq_range', ← hregistered]
    rfl
  obtain ⟨journal, hupdated⟩ := listen_updateAll queries [] engine.beginPass hhandles
  exact ⟨journal, (listen_congr hrun).trans hupdated⟩

/-- A sweep whose first pass asks for no further one has no further one, whatever its limit. -/
theorem listen_allPasses {events : List ChangeEvent} (h : listen Engine.pass engine = (.ok (), events, after))
    (hquiet : after.followUpRequested = false) (reason : SweepReason) (limit : FollowUpLimit) :
    listen (Engine.allPasses reason limit) engine = (.ok (), events, after) := by
  have hlast : ∀ more : Engine.Act Unit,
      listen (Engine.pass >>= fun _ => Operation.get >>= fun engine : Engine =>
        if engine.followUpRequested then more else pure ()) engine = (.ok (), events, after) := by
    intro more
    have hnone : listen (Operation.get >>= fun engine : Engine =>
        if engine.followUpRequested then more else pure ()) after = (.ok (), [], after) := by
      apply listen_of_done
      rw [get_bind, hquiet]
      rfl
    rw [listen_bind h hnone, List.append_nil]
  cases limit with
  | incomparable => exact hlast _
  | atMost passes =>
    rw [Engine.allPasses]
    cases passes.toNat <;> exact hlast _

/-- A sweep is its one pass. -/
theorem listen_sweep (htold : IsTold engine) (hhandles : engine.handles = queries.map (handleAt before))
    (hregistered : engine.registered = List.range queries.length) (hidle : engine.isSweeping = false)
    (reason : SweepReason) :
    ∃ journal, listen (Engine.sweep reason) engine =
      (.ok (), queries.filterMap (change? before (present engine)), refreshed engine queries journal) := by
  have hbegun : IsTold (engine.beginSweep reason) := ⟨htold.provider, htold.host⟩
  obtain ⟨journal, hpass⟩ := listen_pass hbegun hhandles hregistered
  have hrun : Engine.sweep reason engine =
      (Engine.allPasses reason engine.followUps).ensuring (·.endSweep) (engine.beginSweep reason) := by
    simp only [Engine.sweep, get_bind, hidle]
    rfl
  refine ⟨.sweepEnded :: journal, (listen_congr hrun).trans ?_⟩
  rw [listen_ensuring (listen_allPasses hpass rfl reason engine.followUps)]
  simp only [refreshed, Engine.endSweep, ← hidle]
  rfl

/-- A flush with a pending frame is the sweep of this frame. -/
theorem listen_flush {events : List ChangeEvent} (hpaced : engine.pacer.IsExact)
    (hpending : engine.pacer.isPending = true)
    (h : listen (Engine.sweep .resize) (engine.takeDue none).startFrame = (.ok (), events, after)) :
    listen (Engine.flush none) engine = (.ok 1, events, after) := by
  obtain ⟨number, hnumber⟩ := Option.isSome_iff_exists.1 hpending
  rw [Pacer.IsExact, hnumber, Option.toList_some, List.map_eq_singleton_iff] at hpaced
  obtain ⟨frame, hscheduled, -⟩ := hpaced
  have hdue : engine.pacer.frames.due none = [frame] := by
    rw [Frames.due, Frames.dueCount, List.take_length, hscheduled]
  have hframe : listen Engine.runFrame (engine.takeDue none) = (.ok (), events, after) := by
    have hstill : (engine.takeDue none).pacer.isPending = true := hpending
    have hrun : Engine.runFrame (engine.takeDue none) =
        Engine.sweep .resize (engine.takeDue none).startFrame := by
      simp only [Engine.runFrame, get_bind, hstill, if_true, modify_bind]
    exact (listen_congr hrun).trans h
  have hrun : Engine.flush none engine =
      (Engine.runFrame >>= fun _ => (pure () : Engine.Act Unit) >>= fun _ => pure 1)
        (engine.takeDue none) := by
    simp only [Engine.flush, get_bind, modify_bind, hdue, forAll, bind_assoc, List.length_singleton]
  rw [listen_congr hrun, listen_bind hframe (listen_of_done rfl), List.append_nil]

end CommandLine

end Breakpoint
