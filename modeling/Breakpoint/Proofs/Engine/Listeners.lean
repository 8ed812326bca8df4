import Breakpoint.Proofs.Engine.Bearings
import Breakpoint.Proofs.Engine.Destruction

/-!
# Who listens

The listeners of a handle are distinct and change only when the host asks for it: a listener is
there because a request granted it or its binding joined the handle. A sweep changes no one's
listeners, it only tells them.
-/

namespace Breakpoint.Engine

/-- The request adds a listener to a handle. -/
def Grants (number : Nat) (listener : Listener) : Request → Prop
  | .addListener handle added => handle = number ∧ added = some listener
  | .addEventListener handle type added =>
    handle = number ∧ type = changeType ∧ added = some listener
  | _ => False

/-- No handle has a listener twice. -/
def IsDistinct (engine : Engine) : Prop := ∀ number, (engine.listeners number).Nodup

variable {engine after : Engine} {number : Nat} {listener : Listener}

/-! ## Single changes -/

/-- The same handles have the same listeners. -/
theorem listeners_of_handles (h : after.handles = engine.handles) (number : Nat) :
    after.listeners number = engine.listeners number := by
  rw [listeners, listeners, handle?, handle?, h]

/-- The listeners after a handle was changed. -/
theorem listeners_changeHandle (engine : Engine) (changed number : Nat)
    (change : Handle → Handle) :
    (engine.changeHandle changed change).listeners number =
      if changed = number then (engine.handle? number).elim [] fun handle => (change handle).listeners
      else engine.listeners number := by
  rw [listeners, handle?_changeHandle]
  split
  · cases engine.handle? number <;> rfl
  · rfl

/-- A change of handles that leaves their listeners alone. -/
theorem listeners_changeHandle_of_same {change : Handle → Handle}
    (hchange : ∀ handle, (change handle).listeners = handle.listeners) (engine : Engine)
    (changed number : Nat) :
    (engine.changeHandle changed change).listeners number = engine.listeners number := by
  rw [listeners_changeHandle, listeners]
  split
  · cases engine.handle? number with
    | none => rfl
    | some handle => exact hchange handle
  · rfl

/-- A change of a handle that leaves its slot alone leaves all slots alone. -/
theorem slot_changeHandle_of_same {change : Handle → Handle}
    (hchange : ∀ handle, (change handle).onChange = handle.onChange) (engine : Engine)
    (changed number : Nat) :
    (engine.changeHandle changed change).slot number = engine.slot number := by
  rw [slot, slot, handle?_changeHandle]
  split
  · cases engine.handle? number with
    | none => rfl
    | some handle => exact hchange handle
  · rfl

/-- Listening adds one listener to one handle, if it is not there. -/
theorem listeners_listen (engine : Engine) (changed number : Nat) (added : Option Listener) :
    (engine.listen changed added).listeners number = engine.listeners number ∨
      ∃ listener, changed = number ∧ added = some listener ∧
        listener ∉ engine.listeners number ∧
          (engine.listen changed added).listeners number = engine.listeners number ++ [listener] := by
  cases added with
  | none => exact .inl rfl
  | some listener =>
    rw [listen, listeners_changeHandle, listeners]
    split
    · next hsame =>
      cases engine.handle? number with
      | none => exact .inl rfl
      | some handle =>
        simp only [Option.elim_some, Handle.addListener]
        split
        · exact .inl rfl
        · next hnew => exact .inr ⟨listener, hsame, rfl, hnew, rfl⟩
    · exact .inl rfl

/-- Listening no more removes one listener from one handle. -/
theorem listeners_unlisten (engine : Engine) (changed number : Nat) (removed : Option Listener) :
    (engine.unlisten changed removed).listeners number =
      if changed = number then
        removed.elim (engine.listeners number) (engine.listeners number).erase
      else engine.listeners number := by
  cases removed with
  | none =>
    rw [unlisten]
    split <;> rfl
  | some listener =>
    rw [unlisten, listeners_changeHandle, listeners]
    split
    · cases engine.handle? number <;> rfl
    · rfl

/-- Fewer listeners, in the same order. -/
def Fewer (before after : Engine) : Prop :=
  ∀ number, (after.listeners number).Sublist (before.listeners number)

/-- As many listeners are no more. -/
theorem fewer_of_eq (h : ∀ number, after.listeners number = engine.listeners number) :
    Fewer engine after :=
  fun number => h number ▸ List.Sublist.refl _

/-- Removing a listener leaves fewer. -/
theorem fewer_unlisten (engine : Engine) (changed : Nat) (removed : Option Listener) :
    Fewer engine (engine.unlisten changed removed) := by
  intro number
  rw [listeners_unlisten]
  split
  · cases removed with
    | none => exact List.Sublist.refl _
    | some listener => exact List.erase_sublist
  · exact List.Sublist.refl _

/-- Removing a listener for a type of events leaves fewer. -/
theorem fewer_unlistenTo (engine : Engine) (changed : Nat) (type : Text)
    (removed : Option Listener) : Fewer engine (engine.unlistenTo changed type removed) := by
  rw [unlistenTo]
  split
  · exact fewer_unlisten engine changed removed
  · exact fewer_of_eq fun _ => rfl

/-- Nothing but detaching changes the handles of an engine that is destroyed. -/
theorem handle?_tearDown (engine : Engine) (number : Nat) :
    engine.tearDown.handle? number = engine.detachAll.handle? number := by
  have hmarked : ∀ engine : Engine, engine.markDestroyed.handle? number = engine.handle? number := by
    intro engine
    rw [markDestroyed]
    split <;> rfl
  rw [tearDown, hmarked]
  show engine.stopObserving.detachAll.handle? number = _
  rw [stopObserving]
  split
  · dsimp only
    split <;> rfl
  · rfl

/-- Destruction removes no listeners. -/
theorem listeners_tearDown (engine : Engine) (number : Nat) :
    engine.tearDown.listeners number = engine.listeners number := by
  rw [listeners, handle?_tearDown, handle?_detachAll, listeners]
  cases engine.handle? number with
  | none => rfl
  | some handle =>
    show (if _ then _ else handle : Handle).listeners = handle.listeners
    split <;> rfl

/-! ## Moves -/

/-- Every handle has listeners fewer, or one more that it was granted. -/
def Gains (granted : Nat → Listener → Prop) (before after : Engine) : Prop :=
  ∀ number, (after.listeners number).Sublist (before.listeners number) ∨
    ∃ listener, granted number listener ∧ listener ∉ before.listeners number ∧
      after.listeners number = before.listeners number ++ [listener]

namespace Gains

variable {granted : Nat → Listener → Prop} {before middle : Engine}

/-- Fewer listeners were all there. -/
theorem of_fewer (h : Fewer before after) : Gains granted before after :=
  fun number => .inl (h number)

/-- The same listeners were all there. -/
theorem of_eq (h : ∀ number, after.listeners number = before.listeners number) :
    Gains granted before after :=
  of_fewer (fewer_of_eq h)

/-- A listener that is added was granted. -/
theorem of_listen (engine : Engine) (changed : Nat) (added : Option Listener)
    (h : ∀ listener, added = some listener → granted changed listener) :
    Gains granted engine (engine.listen changed added) := by
  intro number
  rcases engine.listeners_listen changed number added with hsame | ⟨listener, rfl, hadded, hnew, hlast⟩
  · exact .inl (hsame ▸ List.Sublist.refl _)
  · exact .inr ⟨listener, h listener hadded, hnew, hlast⟩

/-- A listener was there before or was granted. -/
theorem mem (h : Gains granted before after) (hmember : listener ∈ after.listeners number) :
    listener ∈ before.listeners number ∨ granted number listener := by
  rcases h number with hsublist | ⟨added, hgranted, -, hlast⟩
  · exact .inl (hsublist.subset hmember)
  · rw [hlast, List.mem_append, List.mem_singleton] at hmember
    rcases hmember with hold | rfl
    · exact .inl hold
    · exact .inr hgranted

/-- Listeners stay distinct. -/
theorem isDistinct (h : Gains granted before after) (hdistinct : IsDistinct before) :
    IsDistinct after := by
  intro number
  rcases h number with hsublist | ⟨added, -, hnew, hlast⟩
  · exact hsublist.nodup (hdistinct number)
  · rw [hlast, List.nodup_append]
    refine ⟨hdistinct number, by simp, ?_⟩
    rintro member hmember other hother rfl
    cases List.mem_singleton.1 hother
    exact hnew hmember

end Gains

/-- The listener is added to the handle by the move, or by the binding that joins it. -/
def Granted (move : Move Request (Except Fault Unit)) (waiting : List Suspension) (number : Nat)
    (listener : Listener) : Prop :=
  (∃ request, move = .begin request ∧ Grants number listener request) ∨
    ∃ binding receiver, listener = .bound binding receiver ∧
      .joining binding receiver number ∈ waiting

/-- Asking for a query leaves every handle alone, but may make one. -/
theorem handle?_asks {query : Value} {outcome : Except Fault Nat}
    (h : matchMedia query engine = .done outcome after) (number : Nat) :
    after.handle? number = engine.handle? number ∨
      engine.handle? number = none ∧ ∃ tree isMatch, after.handle? number =
        some { media := query.display, query := tree, isMatch } := by
  cases asks_of_done h with
  | refused hrefused => exact .inl rfl
  | known hknown => exact .inl rfl
  | fails hnew hfinds hlevel => exact .inl (congrArg (·[number]?) hfinds.handles)
  | @makes isMatch tree found records hnew hfinds hlevel hfirst =>
    have hnoted : (found.noteRecords records).handles = engine.handles := hfinds.handles
    rw [handle?_register, hnoted]
    split
    · next hlast =>
      subst hlast
      exact .inr ⟨List.getElem?_length engine.handles, tree, isMatch, rfl⟩
    · exact .inl (congrArg (·[number]?) hnoted)

/-- Asking for a query changes no listeners. -/
theorem listeners_asks {query : Value} {outcome : Except Fault Nat}
    (h : matchMedia query engine = .done outcome after) (number : Nat) :
    after.listeners number = engine.listeners number := by
  rcases handle?_asks h number with hsame | ⟨hnone, tree, isMatch, hmade⟩
  · rw [listeners, hsame, listeners]
  · rw [listeners, hmade, listeners, hnone]
    rfl

/-- The listeners after a request that calls no one. -/
theorem gains_change {request : Request} {change : Engine → Engine} {waiting : List Suspension}
    (h : request.change? = some change) (engine : Engine) :
    Gains (Granted (.begin request) waiting) engine (change engine) := by
  cases request <;> cases h <;> dsimp only
  case addListener changed added =>
    apply Gains.of_listen
    rintro listener rfl
    exact .inl ⟨_, rfl, rfl, rfl⟩
  case addEventListener changed type added =>
    rw [listenTo]
    split
    · next htype =>
      apply Gains.of_listen
      rintro listener rfl
      exact .inl ⟨_, rfl, rfl, htype, rfl⟩
    · exact .of_eq fun _ => rfl
  case removeListener changed removed => exact .of_fewer (fewer_unlisten engine changed removed)
  case removeEventListener changed type removed =>
    exact .of_fewer (fewer_unlistenTo engine changed type removed)
  case setOnChange changed added =>
    apply Gains.of_eq
    apply listeners_changeHandle_of_same
    exact fun _ => rfl
  case unbind binding =>
    rw [unbind]
    split
    · exact .of_fewer (fewer_unlistenTo engine _ _ _)
    · exact .of_eq fun _ => rfl
  case setSize width height =>
    obtain ⟨pacer, hresize, -⟩ := engine.resize_eq width height
    rw [hresize]
    exact .of_eq fun _ => rfl
  case destroy => exact .of_eq (listeners_tearDown engine)
  all_goals exact .of_eq fun _ => rfl

/-- The listeners after a move, before a sweep goes on. -/
theorem HostStep.gains {move : Move Request (Except Fault Unit)} {waiting : List Suspension}
    {outset : Outset} (h : HostStep move waiting engine outset after) :
    Gains (Granted move waiting) engine after := by
  cases h with
  | changes hchange => exact gains_change hchange engine
  | asks hasks => exact .of_eq (listeners_asks hasks)
  | binds hasks =>
    have hasked := listeners_asks hasks
    exact .of_eq hasked
  | refuses hasks hlevel =>
    have hasked := listeners_asks hasks
    exact .of_eq hasked
  | joinsSweep hprompts hsweeping =>
    apply Gains.of_eq
    intro number
    cases hprompts <;> rfl
  | beginsSweep hprompts hfree =>
    apply Gains.of_eq
    intro number
    cases hprompts <;> rfl
  | @hears turn answer reply waiting engine =>
    apply Gains.of_eq
    intro number
    cases reply <;> rfl
  | joins =>
    apply Gains.of_listen
    rintro listener ⟨⟩
    exact .inr ⟨_, _, rfl, List.mem_cons_self⟩
  | declines hfault => exact .of_eq fun _ => rfl
  | idles => exact .of_eq fun _ => rfl
  | drops => exact .of_eq fun _ => rfl
  | leaves => exact .of_eq fun _ => rfl

/-! ## Sweeps -/

/-- A step of a sweep leaves those who listen alone. -/
theorem Stage.Step.listeners_eq {stage next : Stage} (h : stage.Step engine next after)
    (number : Nat) : after.listeners number = engine.listeners number := by
  cases h with
  | changes hhandle hquery hattached hanswer hchange =>
    apply listeners_changeHandle_of_same
    exact fun _ => rfl
  | _ => rfl

/-- No step of a sweep changes a slot. -/
theorem Stage.Step.slot_eq {stage next : Stage} (h : stage.Step engine next after) (number : Nat) :
    after.slot number = engine.slot number := by
  cases h with
  | changes hhandle hquery hattached hanswer hchange =>
    apply slot_changeHandle_of_same
    exact fun _ => rfl
  | _ => rfl

/-- The listeners when the host has control again. -/
theorem Arrives.listeners_eq {outset : Outset} {event : Event} {now : List Suspension}
    (h : Arrives outset engine event now after) (number : Nat) :
    after.listeners number = engine.listeners number := by
  have hreached : ∀ {stage stop : Stage} {last : Engine}, stage.Reaches engine stop last →
      last.listeners number = engine.listeners number := by
    intro stage stop last hreaches
    apply hreaches.induct _ rfl
    exact fun hstep hsame => (hstep.listeners_eq number).trans hsame
  cases h with
  | rests => rfl
  | ends hreaches =>
    have hlast := hreached hreaches
    exact hlast
  | calls hreaches hcalls =>
    have hlast := hreached hreaches
    exact hlast

/-- The listeners after a move. -/
theorem Leads.gains {move : Move Request (Except Fault Unit)} {waiting now : List Suspension}
    {event : Event} (h : Leads move waiting engine event now after) :
    Gains (Granted move waiting) engine after := by
  obtain ⟨outset, middle, hhost, harrives⟩ := h
  intro number
  rw [harrives.listeners_eq number]
  exact hhost.gains number

/-- No handle ever has a listener twice. -/
theorem isDistinct_sessionAfter (options : EngineOptions)
    (moves : List (Move Request (Except Fault Unit))) :
    IsDistinct (sessionAfter options moves).state := by
  obtain ⟨now, -, hdistinct⟩ := (stands_new options).run (fun _ => IsDistinct)
    (fun _ _ hleads hdistinct => hleads.gains.isDistinct hdistinct) (fun _ => List.nodup_nil) moves
  exact hdistinct

/-! ## The set of listeners -/

/-- The engine when a request was served. -/
def served (session : EngineSession) (request : Request) : Engine :=
  (session.step perform (.begin request)).state

/-- A request that changes the engine at once is served by its change. -/
theorem served_of_change {session : EngineSession} {request : Request} {change : Engine → Engine}
    (h : request.change? = some change) : served session request = change session.state := by
  rw [served, step_of_change h]
  rfl

/-- A change that leaves a handle as it is leaves the engine as it is. -/
theorem changeHandle_eq_self {change : Handle → Handle}
    (h : ∀ handle, engine.handle? number = some handle → change handle = handle) :
    engine.changeHandle number change = engine := by
  have hsame : engine.handles.modify number change = engine.handles := by
    apply List.ext_getElem?
    intro other
    rw [List.getElem?_modify]
    split
    · next heq =>
      subst heq
      cases hhandle : engine.handles[number]? with
      | none => rfl
      | some handle => exact congrArg some (h handle hhandle)
    · rw [id_map']
  rw [changeHandle, hsame]

/-- The listeners of a handle are those of its number. -/
theorem mem_listeners {handle : Handle} (hhandle : engine.handle? number = some handle) :
    listener ∈ handle.listeners ↔ listener ∈ engine.listeners number := by
  rw [listeners, hhandle, Option.elim_some]

/-- To listen once more changes nothing. -/
theorem listen_of_mem (h : listener ∈ engine.listeners number) :
    engine.listen number (some listener) = engine := by
  apply changeHandle_eq_self
  intro handle hhandle
  exact if_pos ((mem_listeners hhandle).2 h)

/-- Removing a listener that is not there changes nothing. -/
theorem unlisten_of_not_mem (h : listener ∉ engine.listeners number) :
    engine.unlisten number (some listener) = engine := by
  apply changeHandle_eq_self
  intro handle hhandle
  rw [← mem_listeners hhandle] at h
  rw [Handle.removeListener, List.erase_of_not_mem h]

/-- A new listener of a handle is added as the last. -/
theorem listeners_listen_of_not_mem
    (hmade : (engine.handle? number).isSome = true) (h : listener ∉ engine.listeners number) :
    (engine.listen number (some listener)).listeners number =
      engine.listeners number ++ [listener] := by
  obtain ⟨handle, hhandle⟩ := Option.isSome_iff_exists.1 hmade
  have hadded : (handle.addListener listener).listeners = handle.listeners ++ [listener] := by
    rw [← mem_listeners hhandle] at h
    rw [Handle.addListener, if_neg h]
  rw [listen, listeners_changeHandle, if_pos rfl, listeners, hhandle]
  exact hadded

/-- A removed listener is taken from where it was. -/
theorem listeners_unlisten_self (engine : Engine) (number : Nat) (listener : Listener) :
    (engine.unlisten number (some listener)).listeners number =
      (engine.listeners number).erase listener := by
  rw [listeners_unlisten, if_pos rfl]
  rfl

/-- Only a handle that was made has listeners. -/
theorem isSome_of_mem_listeners (h : listener ∈ engine.listeners number) :
    (engine.handle? number).isSome = true := by
  cases hhandle : engine.handle? number with
  | none =>
    rw [listeners, hhandle] at h
    cases h
  | some handle => rfl

/-- The listeners of each handle are a set in the order of its growth, whichever methods it is changed
by. -/
structure ActsAsSet (session : EngineSession) : Prop where
  distinct : ∀ number, (session.state.listeners number).Nodup
  present : ∀ number listener, listener ∈ session.state.listeners number →
    served session (.addListener number (some listener)) = session.state
  added : ∀ number listener, (session.state.handle? number).isSome = true →
    listener ∉ session.state.listeners number →
      (served session (.addListener number (some listener))).listeners number =
        session.state.listeners number ++ [listener]
  removed : ∀ number listener,
    (served session (.removeListener number (some listener))).listeners number =
      (session.state.listeners number).erase listener
  absent : ∀ number listener, listener ∉ session.state.listeners number →
    served session (.removeListener number (some listener)) = session.state
  /-- A listener that is removed and added again comes last. -/
  returned : ∀ number listener, listener ∈ session.state.listeners number →
    (served (session.step perform (.begin (.removeListener number (some listener))))
      (.addListener number (some listener))).listeners number =
        (session.state.listeners number).erase listener ++ [listener]
  nothing : ∀ number, served session (.addListener number none) = session.state ∧
    served session (.removeListener number none) = session.state
  events : ∀ number listener,
    served session (.addEventListener number changeType listener) =
        served session (.addListener number listener) ∧
      served session (.removeEventListener number changeType listener) =
        served session (.removeListener number listener)
  others : ∀ number type listener, type ≠ changeType →
    served session (.addEventListener number type listener) = session.state ∧
      served session (.removeEventListener number type listener) = session.state

/-- Distinct listeners act as a set. -/
theorem actsAsSet {session : EngineSession} (h : IsDistinct session.state) : ActsAsSet session where
  distinct := h
  present number listener hmember := by
    rw [served_of_change rfl]
    exact listen_of_mem hmember
  added number listener hmade hnew := by
    rw [served_of_change rfl]
    exact listeners_listen_of_not_mem hmade hnew
  removed number listener := by
    rw [served_of_change rfl]
    exact listeners_unlisten_self session.state number listener
  absent number listener hnone := by
    rw [served_of_change rfl]
    exact unlisten_of_not_mem hnone
  returned number listener hmember := by
    have hremoved : (session.step perform (.begin (.removeListener number (some listener)))).state =
        session.state.unlisten number (some listener) := by
      rw [step_of_change rfl]
      rfl
    have herased := listeners_unlisten_self session.state number listener
    have hmade : ((session.state.unlisten number (some listener)).handle? number).isSome = true := by
      rw [unlisten, handle?_changeHandle, if_pos rfl, Option.isSome_map]
      exact isSome_of_mem_listeners hmember
    have hnew : listener ∉ (session.state.unlisten number (some listener)).listeners number := by
      rw [herased]
      exact (h number).not_mem_erase
    rw [served_of_change rfl, hremoved, ← herased]
    exact listeners_listen_of_not_mem hmade hnew
  nothing number := by
    constructor
    · rw [served_of_change rfl]
      rfl
    · rw [served_of_change rfl]
      rfl
  events number listener := by
    constructor
    · rw [served_of_change rfl, served_of_change rfl]
      exact if_pos rfl
    · rw [served_of_change rfl, served_of_change rfl]
      exact if_pos rfl
  others number type listener htype := by
    constructor
    · rw [served_of_change rfl]
      exact if_neg htype
    · rw [served_of_change rfl]
      exact if_neg htype

end Breakpoint.Engine
