import Breakpoint.Proofs.Engine.Journal
import Breakpoint.Proofs.Engine.Requests

/-!
# Changes that no listener hears of

Most of what an engine does leaves the answers of its handles alone and adds only asides to the
journal. Such a change neither opens nor closes a dispatch, and no sweep begins or ends with it.
All requests that call no one make such changes.
-/

namespace Breakpoint.Engine

open Journal

/-- An entry of the journal leaves the handles as they are. -/
@[simp] theorem handle?_note (engine : Engine) (entry : Entry) (number : Nat) :
    (engine.note entry).handle? number = engine.handle? number :=
  rfl

/-- A handle after one of them was changed. -/
theorem handle?_changeHandle (engine : Engine) (changed number : Nat) (change : Handle → Handle) :
    (engine.changeHandle changed change).handle? number =
      if changed = number then (engine.handle? number).map change else engine.handle? number := by
  simp only [handle?, changeHandle, List.getElem?_modify]
  split <;> cases engine.handles[number]? <;> rfl

/-- The handles after one was registered: the new one is the last. -/
theorem handle?_register (engine : Engine) (handle : Handle) (number : Nat) :
    (engine.register handle).handle? number =
      if number = engine.handles.length then some handle else engine.handle? number := by
  show (engine.handles ++ [handle])[number]? = _
  split
  · next hlast => rw [hlast, List.getElem?_concat_length]
  · next hother =>
    rw [List.getElem?_append]
    split
    · rfl
    · next hge =>
      rw [List.getElem?_eq_none (by simp; omega), handle?, List.getElem?_eq_none (by omega)]

/-- A change of one handle makes no other. -/
@[simp] theorem length_changeHandle (engine : Engine) (changed : Nat)
    (change : Handle → Handle) :
    (engine.changeHandle changed change).handles.length = engine.handles.length := by
  simp [changeHandle]

/-- Another answer of a handle makes no other handle. -/
@[simp] theorem length_changeAnswer (engine : Engine) (changed : Nat) (isMatch : Bool) :
    (engine.changeAnswer changed isMatch).handles.length = engine.handles.length :=
  length_changeHandle engine changed _

/-- Registering makes one handle. -/
@[simp] theorem length_register (engine : Engine) (handle : Handle) :
    (engine.register handle).handles.length = engine.handles.length + 1 :=
  List.length_append

/-- The handles that were made are there. -/
theorem exists_handle {engine : Engine} {number : Nat} (h : number < engine.handles.length) :
    ∃ handle, engine.handle? number = some handle :=
  ⟨_, List.getElem?_eq_getElem h⟩

/-- Handles stay there while others are made. -/
theorem exists_handle_of_grows {before after : Engine} {number : Nat}
    (hgrows : before.handles.length ≤ after.handles.length)
    (h : ∃ handle, before.handle? number = some handle) :
    ∃ handle, after.handle? number = some handle := by
  obtain ⟨handle, hhandle⟩ := h
  obtain ⟨hnumber, -⟩ := List.getElem?_eq_some_iff.1 hhandle
  exact exists_handle (Nat.lt_of_lt_of_le hnumber hgrows)

/-- A new size changes the viewport and the pacer. If the engine observes its viewport, a frame is
pending afterwards. -/
theorem resize_eq (engine : Engine) (width height : Extent) :
    ∃ pacer : Pacer, engine.resize width height =
        { engine with viewport := engine.viewport.resize width height, pacer } ∧
      (engine.isObserving = true → engine.viewport.observers ≠ [] → pacer.isPending = true) := by
  have htold : ∀ (observers : List Unit) (told : Engine), ∃ pacer : Pacer,
      observers.foldl (fun engine _ => engine.sizeChanged) told = { told with pacer } ∧
        (told.isObserving = true → observers ≠ [] ∨ told.pacer.isPending = true →
          pacer.isPending = true) := by
    intro observers
    induction observers with
    | nil =>
      intro told
      refine ⟨told.pacer, rfl, ?_⟩
      intro _ hpending
      simpa using hpending
    | cons observer observers ih =>
      intro told
      rw [List.foldl_cons, sizeChanged]
      by_cases hobserving : told.isObserving = true
      · obtain ⟨pacer, hfold, hpending⟩ := ih { told with pacer := told.pacer.request }
        rw [if_pos hobserving, hfold]
        exact ⟨pacer, rfl, fun _ _ => hpending hobserving (.inr told.pacer.isPending_request)⟩
      · obtain ⟨pacer, hfold, -⟩ := ih told
        rw [if_neg hobserving, hfold]
        exact ⟨pacer, rfl, fun h => absurd h hobserving⟩
  obtain ⟨pacer, hfold, hpending⟩ := htold engine.viewport.observers
    { engine with viewport := engine.viewport.resize width height }
  exact ⟨pacer, hfold, fun hobserving hobservers => hpending hobserving (.inl hobservers)⟩

/-- A new engine has written nothing but records. -/
theorem goesOn_create (options : EngineOptions) : GoesOn [] (create options).journal := by
  have hrecords : GoesOn [] _ :=
    Adds.records (fun _ => trivial) (Overrides.normaliseRecords (initialOverrides options)) []
  rw [List.append_nil] at hrecords
  exact hrecords

/-- The answers of all handles stay, and the journal goes on with asides. -/
structure Unheard (before after : Engine) : Prop where
  sweeping : after.isSweeping = before.isSweeping
  events : ∀ number, (after.handle? number).map (·.event) = (before.handle? number).map (·.event)
  journal : GoesOn before.journal after.journal

namespace Unheard

variable {before middle after : Engine}

/-- No change is unheard. -/
theorem refl (engine : Engine) : Unheard engine engine := ⟨rfl, fun _ => rfl, Adds.refl _ _⟩

/-- Two unheard changes after one another are one. -/
theorem trans (hfirst : Unheard before middle) (hsecond : Unheard middle after) :
    Unheard before after where
  sweeping := hsecond.sweeping.trans hfirst.sweeping
  events number := (hsecond.events number).trans (hfirst.events number)
  journal := hfirst.journal.trans hsecond.journal

/-- The handles that were made stay. -/
theorem grows (h : Unheard before after) : before.handles.length ≤ after.handles.length := by
  by_contra hless
  have hevent := h.events after.handles.length
  rw [handle?, handle?, List.getElem?_eq_none (Nat.le_refl _),
    List.getElem?_eq_getElem (Nat.lt_of_not_le hless)] at hevent
  cases hevent

/-- What touches neither the handles nor the sweep and only adds asides. -/
theorem of_goesOn (hsweeping : after.isSweeping = before.isSweeping)
    (hhandles : after.handles = before.handles) (hjournal : GoesOn before.journal after.journal) :
    Unheard before after where
  sweeping := hsweeping
  events number := by rw [handle?, handle?, hhandles]
  journal := hjournal

/-- What leaves the journal alone, too. -/
theorem of_eq (hsweeping : after.isSweeping = before.isSweeping)
    (hhandles : after.handles = before.handles) (hjournal : after.journal = before.journal) :
    Unheard before after :=
  of_goesOn hsweeping hhandles (hjournal ▸ Adds.refl _ _)

/-- An aside is unheard. -/
theorem note (entry : Entry) (haside : entry.IsAside) (engine : Engine) :
    Unheard engine (engine.note entry) :=
  of_goesOn rfl rfl (Adds.single entry _ haside)

/-- Records are unheard. -/
theorem noteRecords (records : List LogRecord) (engine : Engine) :
    Unheard engine (engine.noteRecords records) :=
  of_goesOn rfl rfl (Adds.records (fun _ => trivial) records _)

/-- A change of a handle is unheard that leaves its event as it is. -/
theorem changeHandle (change : Handle → Handle)
    (hchange : ∀ handle, (change handle).event = handle.event) (number : Nat) (engine : Engine) :
    Unheard engine (engine.changeHandle number change) where
  sweeping := rfl
  events other := by
    rw [handle?_changeHandle]
    split
    · rw [Option.map_map]
      congr 1
      funext handle
      exact hchange handle
    · rfl
  journal := Adds.refl _ _

/-- No listener hears that another one comes. -/
theorem listen (number : Nat) (listener : Option Listener) (engine : Engine) :
    Unheard engine (engine.listen number listener) := by
  cases listener with
  | none => exact refl engine
  | some listener =>
    refine changeHandle (·.addListener listener) ?_ number engine
    intro handle
    rw [Handle.addListener]
    split <;> rfl

/-- No listener hears that one goes. -/
theorem unlisten (number : Nat) (listener : Option Listener) (engine : Engine) :
    Unheard engine (engine.unlisten number listener) := by
  cases listener with
  | none => exact refl engine
  | some listener =>
    exact changeHandle (·.removeListener listener) (fun _ => rfl) number engine

/-- No listener hears that a binding ends. -/
theorem unbind (binding : Nat) (engine : Engine) : Unheard engine (engine.unbind binding) := by
  rw [Engine.unbind]
  split
  · rw [unlistenTo, if_pos rfl]
    exact unlisten _ _ _
  · exact refl engine

/-- No listener hears of a new size before the next sweep. -/
theorem resize (width height : Extent) (engine : Engine) :
    Unheard engine (engine.resize width height) := by
  obtain ⟨pacer, hresize, -⟩ := engine.resize_eq width height
  rw [hresize]
  exact of_eq rfl rfl rfl

/-- No listener hears that the engine stops observing. -/
theorem stopObserving (engine : Engine) : Unheard engine engine.stopObserving := by
  rw [Engine.stopObserving]
  split
  · dsimp only
    split
    · exact of_goesOn rfl rfl (Adds.single (.record _) _ trivial)
    · exact of_eq rfl rfl rfl
  · exact refl engine

/-- Detached handles keep their answers. -/
theorem detachAll (engine : Engine) : Unheard engine engine.detachAll where
  sweeping := rfl
  events number := by
    simp only [handle?, Engine.detachAll, List.getElem?_mapIdx, Option.map_map]
    congr 1
    funext handle
    simp only [Function.comp_apply]
    split <;> rfl
  journal := Adds.refl _ _

/-- No listener hears that the engine is destroyed. -/
theorem markDestroyed (engine : Engine) : Unheard engine engine.markDestroyed := by
  rw [Engine.markDestroyed]
  split
  · exact refl engine
  · exact of_goesOn rfl rfl (Adds.single (.record _) _ trivial)

/-- No listener hears of a request that calls no one. -/
theorem of_change {request : Request} {change : Engine → Engine}
    (h : request.change? = some change) (engine : Engine) : Unheard engine (change engine) := by
  cases request with
  | addListener number listener =>
    cases h
    exact listen number listener engine
  | removeListener number listener =>
    cases h
    exact unlisten number listener engine
  | addEventListener number type listener =>
    cases h
    simp only [listenTo]
    split
    · exact listen number listener engine
    · exact refl engine
  | removeEventListener number type listener =>
    cases h
    simp only [unlistenTo]
    split
    · exact unlisten number listener engine
    · exact refl engine
  | setOnChange number listener =>
    cases h
    exact changeHandle ({ · with onChange := listener }) (fun _ => rfl) number engine
  | unbind binding =>
    cases h
    exact unbind binding engine
  | setSize width height =>
    cases h
    exact resize width height engine
  | destroy =>
    cases h
    have hcancel : Unheard engine.stopObserving engine.stopObserving.cancelFrame := of_eq rfl rfl rfl
    exact (stopObserving engine).trans (hcancel.trans ((detachAll _).trans (markDestroyed _)))
  | setHost host =>
    cases h
    exact of_eq rfl rfl rfl
  | failSize fails =>
    cases h
    exact of_eq rfl rfl rfl
  | failUnobserve fails =>
    cases h
    exact of_eq rfl rfl rfl
  | setRawSize value =>
    cases h
    exact of_eq rfl rfl rfl
  | setRoom room =>
    cases h
    exact of_eq rfl rfl rfl
  | matchMedia query => cases h
  | bind query receiver => cases h
  | flush limit => cases h
  | setOverrides values => cases h

/-- No listener hears that a query is read. -/
theorem recalls {engine after : Engine} {media : Text} {tree : Option Query}
    (h : engine.Recalls media tree after) : Unheard engine after := by
  obtain ⟨records, ⟨-, rfl⟩ | ⟨-, rfl⟩⟩ := h
  · exact noteRecords records engine
  · exact of_goesOn rfl rfl (Adds.records (fun _ => trivial) records _)

/-- No listener hears of new overrides before the next sweep. -/
theorem replaceOverrides (values : Dict Value) (engine : Engine) :
    Unheard engine (engine.replaceOverrides values) :=
  of_goesOn rfl rfl (Adds.records (fun _ => trivial) _ _)

/-- No listener hears that overrides are refused. -/
theorem refuseOverrides (values : Dict Value) (engine : Engine) :
    Unheard engine (engine.refuseOverrides values) :=
  noteRecords _ engine

/-- No listener hears that a frame starts. -/
theorem startFrame (engine : Engine) : Unheard engine engine.startFrame :=
  of_goesOn rfl rfl (Adds.records (fun _ => trivial) _ _)

/-- No listener hears that tasks leave the schedule. -/
theorem takeDue (limit : Option Int) (engine : Engine) : Unheard engine (engine.takeDue limit) :=
  of_eq rfl rfl rfl

/-- No listener hears that a further pass is asked for. -/
theorem requestFollowUp (engine : Engine) : Unheard engine engine.requestFollowUp :=
  of_eq rfl rfl rfl

/-- No listener hears that no further pass is taken. -/
theorem giveUp (record : LogRecord) (engine : Engine) :
    Unheard engine (engine.note (.record record)).dropFollowUp :=
  of_goesOn rfl rfl (Adds.single (.record record) _ trivial)

/-- No listener hears that a pass begins. -/
theorem beginPass (engine : Engine) : Unheard engine engine.beginPass :=
  of_goesOn rfl rfl (Adds.single .passBegan _ trivial)

/-- No listener hears that a binding is made. -/
theorem addBinding (receiver : Text) (engine : Engine) :
    Unheard engine (engine.addBinding receiver) :=
  of_eq rfl rfl rfl

/-- No listener hears that a binding joins. -/
theorem joinBinding (binding number : Nat) (engine : Engine) :
    Unheard engine (engine.joinBinding binding number) :=
  of_goesOn rfl rfl (Adds.single (.bindingJoined binding number) _ trivial)

end Unheard

end Breakpoint.Engine
