import Breakpoint.Proofs.Engine.Freshness
import Breakpoint.Proofs.Engine.Suspensions

/-!
# Handles and their queries

An engine files its handles by their media text: each name of the registry leads to a live handle
of its own that bears it, and every handle has the tree that its text is read as. Most of what an
engine does is plain in that it touches neither the registry nor anything of a handle but those who
listen to it, and writes plain entries only.
-/

namespace Breakpoint

/-- An entry that is written outside of sweeps: it neither begins nor ends a sweep, a pass or a
dispatch, and warns of nothing. -/
def Entry.IsPlain : Entry → Prop
  | .record written => written.level ≠ .warning
  | .handleMade _ _ | .called _ | .bindingJoined _ _ => True
  | .sweepBegan _ | .passBegan | .sweepEnded | .dispatchBegan _ _ | .told _ _ _
  | .dispatchEnded _ => False

/-- The later journal adds records of the kind. -/
theorem Journal.Adds.of_records {kind : Entry → Prop} {records : List LogRecord}
    (h : ∀ record ∈ records, kind (.record record)) (journal : Journal) :
    Journal.Adds kind journal ((records.map .record).reverse ++ journal) := by
  refine ⟨_, ?_, rfl⟩
  intro entry hentry
  obtain ⟨record, hrecord, rfl⟩ := List.mem_map.1 (List.mem_reverse.1 hentry)
  exact h record hrecord

/-- Nothing is warned of when overrides are read. -/
theorem Overrides.level_normaliseRecords {values : Dict Value} {record : LogRecord}
    (h : record ∈ Overrides.normaliseRecords values) : record.level = .debug := by
  obtain ⟨entry, -, hrecord⟩ := List.mem_filterMap.1 h
  split at hrecord
  · cases hrecord
  · split at hrecord
    · cases hrecord
    · cases hrecord
      rfl

/-- Replacing overrides writes no record above the lowest level. -/
theorem Overrides.level_replaceRecords {values : Dict Value} {record : LogRecord}
    (h : record ∈ Overrides.replaceRecords values) : record.level = .debug := by
  rcases List.mem_append.1 h with h | h
  · exact level_normaliseRecords h
  · cases List.mem_singleton.1 h
    rfl

/-- Nothing is warned of when a frame starts. -/
theorem Pacer.level_startRecords {pacer : Pacer} {record : LogRecord}
    (h : record ∈ pacer.startRecords) : record.level = .debug := by
  rw [Pacer.startRecords, Coalescer.startRecords] at h
  split at h
  · cases h
  · cases List.mem_singleton.1 h
    rfl

namespace Engine

open Journal

variable {engine after : Engine}

/-! ## Plain changes -/

/-- The later state differs only in the viewport, the host and their overrides, in the pacer, in
what is bound and who listens, in the room on the stack, and in plain entries of the journal. -/
structure Plain (before after : Engine) : Prop where
  same : after = { before with
    viewport := after.viewport, provider := after.provider, host := after.host,
    pacer := after.pacer, overrides := after.overrides, handles := after.handles,
    bindings := after.bindings, isObserving := after.isObserving,
    isDestroyed := after.isDestroyed, room := after.room, journal := after.journal }
  handles : ∀ number, (after.handle? number).map Handle.core =
    (before.handle? number).map Handle.core
  journal : Adds Entry.IsPlain before.journal after.journal

namespace Plain

variable {before middle : Engine}

/-- A state differs from itself plainly. -/
theorem refl (engine : Engine) : Plain engine engine := ⟨rfl, fun _ => rfl, Adds.refl _ _⟩

/-- Two plain changes in turn are one. -/
theorem trans (hfirst : Plain before middle) (hsecond : Plain middle after) :
    Plain before after where
  same := by
    rw [hsecond.same, hfirst.same]
  handles number := (hsecond.handles number).trans (hfirst.handles number)
  journal := hfirst.journal.trans hsecond.journal

/-- What touches neither the handles nor the journal. -/
theorem of_same (hsame : after = { before with
      viewport := after.viewport, provider := after.provider, host := after.host,
      pacer := after.pacer, overrides := after.overrides, bindings := after.bindings,
      isObserving := after.isObserving, room := after.room }) : Plain before after := by
  refine ⟨?_, ?_, ?_⟩
  · rw [hsame]
  · rw [hsame]
    exact fun _ => rfl
  · rw [hsame]
    exact Adds.refl _ _

/-- A plain entry is a plain change. -/
theorem note (engine : Engine) {entry : Entry} (h : entry.IsPlain) :
    Plain engine (engine.note entry) :=
  ⟨rfl, fun _ => rfl, Adds.single entry _ h⟩

/-- Records of errors are a plain change. -/
theorem noteRecords (engine : Engine) {records : List LogRecord}
    (h : ∀ record ∈ records, record.level = .error) : Plain engine (engine.noteRecords records) := by
  refine ⟨rfl, fun _ => rfl, Adds.of_records ?_ _⟩
  intro record hrecord
  rw [Entry.IsPlain, h record hrecord]
  simp

/-- A change beside the core of a handle is plain. -/
theorem changeHandle {change : Handle → Handle}
    (hchange : ∀ handle, (change handle).core = handle.core) (engine : Engine) (number : Nat) :
    Plain engine (engine.changeHandle number change) := by
  refine ⟨rfl, ?_, Adds.refl _ _⟩
  intro other
  rw [handle?_changeHandle]
  split
  · rw [Option.map_map]
    congr 1
    funext handle
    exact hchange handle
  · rfl

/-- Listening to a handle is plain. -/
theorem listen (engine : Engine) (number : Nat) (listener : Option Listener) :
    Plain engine (engine.listen number listener) := by
  cases listener with
  | none => exact refl engine
  | some listener =>
    apply changeHandle
    intro handle
    rw [Handle.addListener]
    split <;> rfl

/-- No longer listening to a handle is plain. -/
theorem unlisten (engine : Engine) (number : Nat) (listener : Option Listener) :
    Plain engine (engine.unlisten number listener) := by
  cases listener with
  | none => exact refl engine
  | some listener =>
    apply changeHandle
    exact fun _ => rfl

/-- Listening for a type of events is plain. -/
theorem listenTo (engine : Engine) (number : Nat) (type : Text) (listener : Option Listener) :
    Plain engine (engine.listenTo number type listener) := by
  rw [Engine.listenTo]
  split
  · exact listen engine number listener
  · exact refl engine

/-- No longer listening for a type of events is plain. -/
theorem unlistenTo (engine : Engine) (number : Nat) (type : Text) (listener : Option Listener) :
    Plain engine (engine.unlistenTo number type listener) := by
  rw [Engine.unlistenTo]
  split
  · exact unlisten engine number listener
  · exact refl engine

/-- Ending a binding is plain. -/
theorem unbind (engine : Engine) (binding : Nat) : Plain engine (engine.unbind binding) := by
  rw [Engine.unbind]
  split
  · exact unlistenTo engine _ _ _
  · exact refl engine

/-- Another size of the viewport is a plain change. -/
theorem resize (engine : Engine) (width height : Extent) :
    Plain engine (engine.resize width height) := by
  obtain ⟨pacer, hresize, -⟩ := engine.resize_eq width height
  rw [hresize]
  exact of_same rfl

/-- No longer observing the viewport is a plain change. -/
theorem stopObserving (engine : Engine) : Plain engine engine.stopObserving := by
  rw [Engine.stopObserving]
  split
  · dsimp only
    split
    · exact ⟨rfl, fun _ => rfl, Adds.single (.record _) _ (by simp [Entry.IsPlain])⟩
    · exact of_same rfl
  · exact refl engine

/-- Cancelling the pending frame is a plain change. -/
theorem cancelFrame (engine : Engine) : Plain engine engine.cancelFrame := of_same rfl

/-- The mark of destruction is a plain change. -/
theorem markDestroyed (engine : Engine) : Plain engine engine.markDestroyed := by
  rw [Engine.markDestroyed]
  split
  · exact refl engine
  · exact ⟨rfl, fun _ => rfl, Adds.single (.record _) _ (by simp [Entry.IsPlain])⟩

/-- A request that calls no one makes a plain change, unless it destroys the engine. -/
theorem of_change {request : Request} {change : Engine → Engine}
    (h : request.change? = some change) (hkept : request ≠ .destroy) (engine : Engine) :
    Plain engine (change engine) := by
  cases request <;> cases h
  case addListener number listener => exact listen engine number listener
  case removeListener number listener => exact unlisten engine number listener
  case addEventListener number type listener => exact listenTo engine number type listener
  case removeEventListener number type listener => exact unlistenTo engine number type listener
  case setOnChange number listener =>
    apply changeHandle
    exact fun _ => rfl
  case unbind binding => exact unbind engine binding
  case setSize width height => exact resize engine width height
  case destroy => exact absurd rfl hkept
  all_goals exact of_same rfl

/-- What is written of overrides that are refused is plain. -/
theorem refuseOverrides (engine : Engine) (values : Dict Value) :
    Plain engine (engine.refuseOverrides values) := by
  refine ⟨rfl, fun _ => rfl, Adds.of_records ?_ _⟩
  intro record hrecord
  rw [Entry.IsPlain, Overrides.level_normaliseRecords hrecord]
  simp

/-- What prompts a sweep changes the engine plainly before the sweep. -/
theorem of_prompts {request : Request} {reason : SweepReason} {answer : Answer}
    (h : Prompts request engine reason answer after) : Plain engine after := by
  have hdebug : ∀ {records : List LogRecord} (journal : Journal),
      (∀ record ∈ records, record.level = .debug) →
        Adds Entry.IsPlain journal ((records.map .record).reverse ++ journal) := by
    intro records journal hlevel
    apply Adds.of_records
    intro record hrecord
    rw [Entry.IsPlain, hlevel record hrecord]
    simp
  cases h with
  | overrides haccepted =>
    exact ⟨rfl, fun _ => rfl, hdebug _ fun _ => Overrides.level_replaceRecords⟩
  | frame hpending hleft => exact ⟨rfl, fun _ => rfl, hdebug _ fun _ => Pacer.level_startRecords⟩

/-- What a turn hears from its callback is a plain change. -/
theorem hear (turn : Turn) (reply : Except Fault Unit) (engine : Engine) :
    Plain engine (turn.hear reply engine) := by
  cases reply with
  | ok result => exact refl engine
  | error fault => exact note engine (by simp [Entry.IsPlain, Turn.failure])

/-- A new binding is a plain change. -/
theorem addBinding (engine : Engine) (receiver : Text) : Plain engine (engine.addBinding receiver) :=
  of_same rfl

/-- Joining a binding to its handle is a plain change. -/
theorem joinBinding (engine : Engine) (binding number : Nat) :
    Plain engine (engine.joinBinding binding number) :=
  ⟨rfl, fun _ => rfl, Adds.single (.bindingJoined _ _) _ trivial⟩

end Plain

/-! ## Filed handles -/

/-- The registry leads from each of its names to a live handle of that name, and every handle has
the tree that its name is read as. A handle whose name cannot be read answers no. -/
structure IsFiled (engine : Engine) : Prop where
  names : engine.registry.names.Nodup
  registry : ∀ media number, (media, number) ∈ engine.registry.entries →
    ∃ handle, engine.handle? number = some handle ∧ handle.media = media ∧
      handle.isDetached = false
  query : ∀ number handle, engine.handle? number = some handle →
    Query.ReadsAs handle.media handle.query
  unread : ∀ number handle, engine.handle? number = some handle → handle.query = none →
    handle.isMatch = false
  parsed : ∀ media tree, engine.parsed.get? media = some tree → Query.ReadsAs media tree

namespace IsFiled

/-- A new engine has its handles filed, as it has none. -/
theorem create (options : EngineOptions) : IsFiled (create options) where
  names := List.nodup_nil
  registry _ _ hnone := by cases hnone
  query _ _ hnone := by cases hnone
  unread _ _ hnone := by cases hnone
  parsed _ _ hnone := by cases hnone

/-- Only the registry, the trees and the cores of the handles matter. -/
theorem of_cores (h : IsFiled engine) (hregistry : after.registry = engine.registry)
    (hparsed : after.parsed = engine.parsed)
    (hhandles : ∀ number, (after.handle? number).map Handle.core =
      (engine.handle? number).map Handle.core) : IsFiled after := by
  have hback : ∀ number handle, after.handle? number = some handle →
      ∃ earlier, engine.handle? number = some earlier ∧ handle.SameCore earlier := by
    intro number handle hhandle
    have hsame := hhandles number
    rw [hhandle, Option.map_some] at hsame
    obtain ⟨earlier, hearlier, hcore⟩ := Option.map_eq_some_iff.1 hsame.symm
    exact ⟨earlier, hearlier, Handle.sameCore hcore.symm⟩
  refine ⟨hregistry ▸ h.names, ?_, ?_, ?_, hparsed ▸ h.parsed⟩
  · intro media number hmember
    rw [hregistry] at hmember
    obtain ⟨handle, hhandle, hmedia, hattached⟩ := h.registry media number hmember
    have hsame := hhandles number
    rw [hhandle, Option.map_some] at hsame
    obtain ⟨later, hlater, hcore⟩ := Option.map_eq_some_iff.1 hsame
    have hlike := Handle.sameCore hcore
    exact ⟨later, hlater, hlike.media.trans hmedia, hlike.isDetached.trans hattached⟩
  · intro number handle hhandle
    obtain ⟨earlier, hearlier, hlike⟩ := hback number handle hhandle
    rw [hlike.query, hlike.media]
    exact h.query number earlier hearlier
  · intro number handle hhandle hnone
    obtain ⟨earlier, hearlier, hlike⟩ := hback number handle hhandle
    rw [hlike.isMatch]
    exact h.unread number earlier hearlier (hlike.query.symm.trans hnone)

/-- Handles stay filed through a plain change. -/
theorem plain (h : IsFiled engine) (hplain : Plain engine after) : IsFiled after := by
  apply h.of_cores _ _ hplain.handles
  · rw [hplain.same]
  · rw [hplain.same]

/-- Every query of a handle has an answer. -/
theorem evaluate_isOk (h : IsFiled engine) {number : Nat} {handle : Handle} {query : Query}
    (hhandle : engine.handle? number = some handle) (hquery : handle.query = some query)
    (surroundings : Surroundings) : ∃ isMatch, query.evaluate surroundings = .ok isMatch := by
  have hread := h.query number handle hhandle
  rw [hquery] at hread
  exact Query.evaluate_isOk hread surroundings

/-- Another answer of a handle that has a query. -/
theorem changeAnswer (h : IsFiled engine) {number : Nat} {handle : Handle} {query : Query}
    (hhandle : engine.handle? number = some handle) (hquery : handle.query = some query)
    (isMatch : Bool) : IsFiled (engine.changeAnswer number isMatch) := by
  have hchanged : ∀ other, (engine.changeAnswer number isMatch).handle? other =
      if number = other then (engine.handle? other).map ({ · with isMatch }) else
        engine.handle? other := fun other => handle?_changeHandle engine number other _
  -- a handle without a query keeps its answer, since the one that is changed has a query
  have hback : ∀ other changed, (engine.changeAnswer number isMatch).handle? other = some changed →
      ∃ earlier, engine.handle? other = some earlier ∧ changed.media = earlier.media ∧
        changed.query = earlier.query ∧ (changed.query = none → changed.isMatch = earlier.isMatch) := by
    intro other changed hother
    rw [hchanged] at hother
    split at hother
    · next hsame =>
      subst hsame
      rw [hhandle, Option.map_some, Option.some_inj] at hother
      subst hother
      refine ⟨handle, hhandle, rfl, rfl, ?_⟩
      intro hnone
      cases hquery.symm.trans hnone
    · exact ⟨changed, hother, rfl, rfl, fun _ => rfl⟩
  refine ⟨h.names, ?_, ?_, ?_, h.parsed⟩
  · intro media other hmember
    obtain ⟨earlier, hearlier, hmedia, hattached⟩ := h.registry media other hmember
    rw [hchanged, hearlier]
    split
    · exact ⟨_, rfl, hmedia, hattached⟩
    · exact ⟨earlier, rfl, hmedia, hattached⟩
  · intro other changed hother
    obtain ⟨earlier, hearlier, hmedia, hsame, -⟩ := hback other changed hother
    rw [hmedia, hsame]
    exact h.query other earlier hearlier
  · intro other changed hother hnone
    obtain ⟨earlier, hearlier, -, hsame, hanswer⟩ := hback other changed hother
    rw [hanswer hnone]
    exact h.unread other earlier hearlier (hsame.symm.trans hnone)

/-- What is found for a query is its tree. -/
theorem readsAs (h : IsFiled engine) {media : Text} {tree : Option Query}
    (hfinds : Finds media engine tree after) : Query.ReadsAs media tree := by
  cases hfinds with
  | remembered hknown => exact h.parsed media tree hknown
  | read hunread hread => exact ⟨_, _, hread⟩

/-- A query that is read is remembered with its tree. -/
theorem finds (h : IsFiled engine) {media : Text} {tree : Option Query}
    (hfinds : Finds media engine tree after) : IsFiled after := by
  have htree := h.readsAs hfinds
  cases hfinds with
  | remembered hknown => exact h
  | read hunread hread =>
    refine ⟨h.names, h.registry, h.query, h.unread, ?_⟩
    intro other found hother
    have hinsert : (engine.parsed.insert media tree).get? other = some found := hother
    rw [Dict.get?_insert] at hinsert
    split at hinsert
    · next hsame =>
      cases hinsert
      rw [hsame]
      exact htree
    · exact h.parsed other found hinsert

/-- A handle is registered under a name that no handle has. -/
theorem register (h : IsFiled engine) {media : Text} {tree : Option Query} {isMatch : Bool}
    (hnew : engine.registry.get? media = none) (htree : Query.ReadsAs media tree)
    (hunread : tree = none → isMatch = false) :
    IsFiled (engine.register { media, query := tree, isMatch }) := by
  have hregistry : ∀ other number, (other, number) ∈
      (engine.register { media, query := tree, isMatch }).registry.entries →
        (other = media ∧ number = engine.handles.length) ∨
          (other, number) ∈ engine.registry.entries := by
    intro other number hmember
    exact (Dict.mem_insert hmember).imp_left Prod.mk.inj
  refine ⟨Dict.nodup_names_insert h.names _ _, ?_, ?_, ?_, h.parsed⟩
  · intro other number hmember
    rw [handle?_register]
    rcases hregistry other number hmember with ⟨rfl, rfl⟩ | hold
    · exact ⟨_, if_pos rfl, rfl, rfl⟩
    · obtain ⟨handle, hhandle, hkept⟩ := h.registry other number hold
      -- the new handle comes last, so it is none of those that were registered
      obtain ⟨hnumber, -⟩ := List.getElem?_eq_some_iff.1 hhandle
      exact ⟨handle, by rw [if_neg (Nat.ne_of_lt hnumber), hhandle], hkept⟩
  · intro number handle hhandle
    rw [handle?_register] at hhandle
    split at hhandle
    · cases hhandle
      exact htree
    · exact h.query number handle hhandle
  · intro number handle hhandle hnone
    rw [handle?_register] at hhandle
    split at hhandle
    · cases hhandle
      exact hunread hnone
    · exact h.unread number handle hhandle hnone

/-- Asking for a query leaves the handles filed. -/
theorem asks {query : Value} {outcome : Except Fault Nat} (h : IsFiled engine)
    (hasks : matchMedia query engine = .done outcome after) : IsFiled after := by
  cases asks_of_done hasks with
  | refused hrefused => exact h
  | known hknown => exact h
  | fails hnew hfinds hlevel => exact (h.finds hfinds).plain (.noteRecords _ hlevel)
  | makes hnew hfinds hlevel hfirst =>
    refine ((h.finds hfinds).plain (.noteRecords _ hlevel)).register ?_ (h.readsAs hfinds) ?_
    · rw [← hnew, ← hfinds.registry]
      rfl
    · rintro rfl
      exact hfirst

/-- All handles are detached. -/
theorem detachAll (h : IsFiled engine) : IsFiled engine.detachAll := by
  have hback : ∀ number handle, engine.detachAll.handle? number = some handle →
      ∃ earlier, engine.handle? number = some earlier ∧ handle.media = earlier.media ∧
        handle.query = earlier.query ∧ handle.isMatch = earlier.isMatch := by
    intro number handle hhandle
    rw [handle?_detachAll, Option.map_eq_some_iff] at hhandle
    obtain ⟨earlier, hearlier, rfl⟩ := hhandle
    refine ⟨earlier, hearlier, ?_⟩
    split <;> exact ⟨rfl, rfl, rfl⟩
  refine ⟨List.nodup_nil, ?_, ?_, ?_, ?_⟩
  · intro media number hnone
    cases hnone
  · intro number handle hhandle
    obtain ⟨earlier, hearlier, hmedia, hquery, -⟩ := hback number handle hhandle
    rw [hquery, hmedia]
    exact h.query number earlier hearlier
  · intro number handle hhandle hnone
    obtain ⟨earlier, hearlier, -, hquery, hmatch⟩ := hback number handle hhandle
    rw [hmatch]
    exact h.unread number earlier hearlier (hquery.symm.trans hnone)
  · intro media tree hnone
    cases hnone

/-- Handles stay filed when the engine is destroyed, since the registry is emptied. -/
theorem tearDown (h : IsFiled engine) : IsFiled engine.tearDown := by
  have hstopped := (h.plain (.stopObserving engine)).plain (.cancelFrame _)
  exact hstopped.detachAll.plain (.markDestroyed _)

/-- Handles stay filed through every request that changes the engine at once. -/
theorem change {request : Request} {change : Engine → Engine} (h : IsFiled engine)
    (hchange : request.change? = some change) : IsFiled (change engine) := by
  by_cases hdestroys : request = .destroy
  · subst hdestroys
    cases hchange
    exact h.tearDown
  · exact h.plain (.of_change hchange hdestroys engine)

/-- A step of a sweep leaves the handles filed. -/
theorem step {stage next : Stage} (h : IsFiled engine) (hstep : stage.Step engine next after) :
    IsFiled after := by
  cases hstep with
  | unreadable hsize => exact h.of_cores rfl rfl fun _ => rfl
  | misread hsize hfault => exact h.of_cores rfl rfl fun _ => rfl
  | reads hsize => exact h.of_cores rfl rfl fun _ => rfl
  | changes hhandle hquery hattached hanswer hchange => exact h.changeAnswer hhandle hquery _
  | closes => exact h.of_cores rfl rfl fun _ => rfl
  | givesUp hrequest hallowed => exact h.of_cores rfl rfl fun _ => rfl
  | _ => exact h

/-- What a host does at once leaves the handles filed. -/
theorem hostStep {move : Move Request (Except Fault Unit)} {waiting : List Suspension}
    {outset : Outset} (h : IsFiled engine) (hstep : HostStep move waiting engine outset after) :
    IsFiled after := by
  cases hstep with
  | changes hchange => exact h.change hchange
  | asks hasks => exact h.asks hasks
  | binds hasks => exact ((h.plain (.addBinding engine _)).asks hasks).plain (.note _ trivial)
  | refuses hasks hlevel =>
    have hasked := (h.plain (.addBinding engine _)).asks hasks
    exact (hasked.plain (.noteRecords _ hlevel)).plain (.note _ trivial)
  | declines hfault => exact h.plain (.refuseOverrides engine _)
  | joinsSweep hprompts hsweeping =>
    exact (h.plain (.of_prompts hprompts)).of_cores rfl rfl fun _ => rfl
  | beginsSweep hprompts hfree =>
    exact (h.plain (.of_prompts hprompts)).of_cores rfl rfl fun _ => rfl
  | hears => exact h.plain (.hear _ _ engine)
  | joins => exact (h.plain (.listen engine _ _)).plain (.joinBinding _ _ _)
  | idles => exact h
  | drops => exact h
  | leaves => exact h

/-- The handles are filed when the host has control again. -/
theorem arrives {outset : Outset} {event : Event} {now : List Suspension} (h : IsFiled engine)
    (harrives : Arrives outset engine event now after) : IsFiled after := by
  have hreached : ∀ {stage stop : Stage} {last : Engine}, stage.Reaches engine stop last →
      IsFiled last := by
    intro stage stop last hreaches
    apply hreaches.induct _ h
    exact fun hstep hfiled => hfiled.step hstep
  cases harrives with
  | rests => exact h
  | ends hreaches => exact (hreached hreaches).of_cores rfl rfl fun _ => rfl
  | calls hreaches hcalls => exact (hreached hreaches).of_cores rfl rfl fun _ => rfl

end IsFiled

end Engine

end Breakpoint
