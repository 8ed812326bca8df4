import Breakpoint.Proofs.Engine.Changes
import Breakpoint.Proofs.Engine.Ledger

/-!
# When bindings are in sync

A binding gives its receiver the present answer of a handle, and then listens to the handle. The
receiver has control in between. If it makes the engine change that answer, no one tells it of
the change, and it stays out of sync until the answer changes once more.

For one binding, which the host does not end, this is shown to be the only way out of sync: the
contract below follows the binding through all operations, whatever else the host does.
-/

namespace Breakpoint.Engine

open Journal

variable {binding : Nat}

/-- The receiver of the binding was last given the answer that the handle has. -/
def IsInSync (engine : Engine) (binding number : Nat) : Prop :=
  ∃ handle, engine.handle? number = some handle ∧
    (deliveries binding engine.journal).head? = some handle.isMatch

/-- What is known of a binding at all times: it listens to the handle that it joined, and to
that one only, and its ledger is kept. -/
structure Tracks (binding : Nat) (engine : Engine) : Prop where
  joined : ∀ number, .bindingJoined binding number ∈ engine.journal →
    ∃ receiver, engine.bindings[binding]? = some ⟨receiver, some number⟩
  handle : ∀ receiver number, engine.bindings[binding]? = some ⟨receiver, some number⟩ →
    ∃ handle, engine.handle? number = some handle
  listens : ∀ number handle receiver, engine.handle? number = some handle →
    (.bound binding receiver ∈ handle.listeners ↔
      engine.bindings[binding]? = some ⟨receiver, some number⟩)
  slot : ∀ number handle receiver, engine.handle? number = some handle →
    handle.onChange ≠ some (.bound binding receiver)
  accounts : Accounts binding engine.journal engine.present
  /-- Every registered number is that of a handle. -/
  registered : ∀ number ∈ engine.registered, ∃ handle, engine.handle? number = some handle

/-- What a whole operation does about a binding that is there: it leaves it as it is, delivers
nothing to it unless it listens and no sweep is under way, and if the binding joins a handle
inside of a sweep, it is in sync. -/
structure Follows (binding : Nat) (before after : Engine) : Prop where
  lasts : Lasts before after
  grows : before.handles.length ≤ after.handles.length
  kept : ∀ made, before.bindings[binding]? = some made → after.bindings[binding]? = some made
  silent : ∀ made, before.bindings[binding]? = some made →
    made.handle = none ∨ before.isSweeping = true →
      deliveries binding after.journal = deliveries binding before.journal
  joins : before.isSweeping = true →
    (∀ receiver number, before.bindings[binding]? ≠ some ⟨receiver, some number⟩) →
      ∀ receiver number, after.bindings[binding]? = some ⟨receiver, some number⟩ →
        after.IsInSync binding number

/-- What is in sync stays in sync where nothing is delivered and the events stay. -/
theorem IsInSync.lasts {before after : Engine} {number : Nat}
    (h : before.IsInSync binding number) (hlasts : Lasts before after)
    (hsweeping : before.isSweeping = true)
    (hsilent : deliveries binding after.journal = deliveries binding before.journal) :
    after.IsInSync binding number := by
  obtain ⟨handle, hhandle, hdelivered⟩ := h
  have hevent := hlasts.events hsweeping number handle hhandle
  obtain ⟨later, hlater, hsame⟩ := Option.map_eq_some_iff.1 hevent
  refine ⟨later, hlater, ?_⟩
  rw [hsilent, hdelivered]
  exact congrArg (some ∘ ChangeEvent.isMatch) hsame.symm

namespace Follows

variable {before middle after : Engine}

/-- What two operations in turn do about a binding is what one operation may do. -/
theorem trans (hfirst : Follows binding before middle) (hsecond : Follows binding middle after) :
    Follows binding before after where
  lasts := hfirst.lasts.trans hsecond.lasts
  grows := hfirst.grows.trans hsecond.grows
  kept made hmade := hsecond.kept made (hfirst.kept made hmade)
  silent made hmade hquiet := by
    have hmiddle : made.handle = none ∨ middle.isSweeping = true := by
      rw [hfirst.lasts.sweeping]
      exact hquiet
    rw [hsecond.silent made (hfirst.kept made hmade) hmiddle, hfirst.silent made hmade hquiet]
  joins hsweeping hapart receiver number hafter := by
    have hmiddleSweeping : middle.isSweeping = true := hfirst.lasts.sweeping.trans hsweeping
    by_cases hjoined : ∃ receiver number, middle.bindings[binding]? = some ⟨receiver, some number⟩
    · obtain ⟨other, joined, hmiddle⟩ := hjoined
      have hsame := hsecond.kept _ hmiddle
      rw [hafter] at hsame
      cases hsame
      have hsync := hfirst.joins hsweeping hapart receiver number hmiddle
      exact hsync.lasts hsecond.lasts hmiddleSweeping
        (hsecond.silent _ hmiddle (.inr hmiddleSweeping))
    · apply hsecond.joins hmiddleSweeping
      · intro other joined hmiddle
        exact hjoined ⟨other, joined, hmiddle⟩
      · exact hafter

/-- An operation that makes the binding owes it nothing yet, but that it is in sync if it joins a
handle inside of a sweep. -/
theorem of_new (hnew : before.bindings[binding]? = none) (hlasts : Lasts before after)
    (hgrows : before.handles.length ≤ after.handles.length)
    (hjoins : before.isSweeping = true → ∀ receiver number,
      after.bindings[binding]? = some ⟨receiver, some number⟩ → after.IsInSync binding number) :
    Follows binding before after where
  lasts := hlasts
  grows := hgrows
  kept made hmade := by simp [hnew] at hmade
  silent made hmade := by simp [hnew] at hmade
  joins hsweeping _ := hjoins hsweeping

end Follows

/-- The contract of an engine with the receiver of one binding. -/
def synchrony (binding : Nat) : Contract Engine Callback where
  Valid engine := faithfulness.Valid engine ∧ Tracks binding engine
  Step := Follows binding
  Call _ _ := True
  refl engine :=
    { lasts := faithfulness.refl engine
      grows := Nat.le_refl _
      kept := fun _ h => h
      silent := fun _ _ _ => rfl
      joins := fun _ hapart receiver number hjoined => absurd hjoined (hapart receiver number) }
  trans := Follows.trans

/-! ## Changes that are not about the binding -/

/-- The listeners of the later handle are those of the earlier one, as far as the binding is
concerned. -/
def SameFor (binding : Nat) (earlier later : Handle) : Prop :=
  ∀ receiver,
    (.bound binding receiver ∈ later.listeners ↔ .bound binding receiver ∈ earlier.listeners) ∧
      (later.onChange = some (.bound binding receiver) →
        earlier.onChange = some (.bound binding receiver))

/-- A change that no listener hears of, and that is not about the binding either. -/
structure Aloof (binding : Nat) (before after : Engine) : Prop where
  unheard : Unheard before after
  bindings : after.bindings[binding]? = before.bindings[binding]?
  handles : ∀ number later, after.handle? number = some later →
    ∃ earlier, before.handle? number = some earlier ∧ SameFor binding earlier later
  journal : Adds (Entry.IsAsideFor binding) before.journal after.journal
  registered : after.registered ⊆ before.registered

namespace Aloof

variable {before middle after : Engine}

/-- Two changes that are not about a binding make one that is not. -/
theorem trans (hfirst : Aloof binding before middle) (hsecond : Aloof binding middle after) :
    Aloof binding before after where
  unheard := hfirst.unheard.trans hsecond.unheard
  bindings := hsecond.bindings.trans hfirst.bindings
  handles number later hlater := by
    obtain ⟨between, hbetween, hlast⟩ := hsecond.handles number later hlater
    obtain ⟨earlier, hearlier, hsame⟩ := hfirst.handles number between hbetween
    refine ⟨earlier, hearlier, ?_⟩
    intro receiver
    exact ⟨(hlast receiver).1.trans (hsame receiver).1,
      fun hslot => (hsame receiver).2 ((hlast receiver).2 hslot)⟩
  journal := hfirst.journal.trans hsecond.journal
  registered := fun _ hnumber => hfirst.registered (hsecond.registered hnumber)

/-- What leaves the handles alone. -/
theorem of_handles (hsweeping : after.isSweeping = before.isSweeping)
    (hhandles : after.handles = before.handles)
    (hbindings : after.bindings[binding]? = before.bindings[binding]?)
    (hregistry : after.registry = before.registry)
    (hjournal : Adds (Entry.IsAsideFor binding) before.journal after.journal) :
    Aloof binding before after where
  unheard := Unheard.of_goesOn hsweeping hhandles
    (hjournal.mono fun _ => isAside_of_isAsideFor)
  bindings := hbindings
  handles number later hlater := by
    rw [handle?, hhandles] at hlater
    exact ⟨later, hlater, fun receiver => ⟨Iff.rfl, id⟩⟩
  journal := hjournal
  registered := by
    rw [Engine.registered, Engine.registered, hregistry]
    exact fun _ => id

/-- What writes nothing, and leaves the handles and bindings alone. -/
theorem of_eq (hsweeping : after.isSweeping = before.isSweeping)
    (hhandles : after.handles = before.handles) (hbindings : after.bindings = before.bindings)
    (hregistry : after.registry = before.registry) (hjournal : after.journal = before.journal) :
    Aloof binding before after :=
  of_handles hsweeping hhandles (by rw [hbindings]) hregistry (hjournal ▸ Adds.refl _ _)

/-- A state differs from itself in nothing about a binding. -/
theorem refl (engine : Engine) : Aloof binding engine engine := of_eq rfl rfl rfl rfl rfl

/-- New records are not about a binding. -/
theorem noteRecords (records : List LogRecord) (engine : Engine) :
    Aloof binding engine (engine.noteRecords records) :=
  of_handles rfl rfl rfl rfl (Adds.records (fun _ => trivial) records _)

/-- An aside that is not about a binding changes nothing about it. -/
theorem note (entry : Entry) (haside : entry.IsAsideFor binding) (engine : Engine) :
    Aloof binding engine (engine.note entry) :=
  of_handles rfl rfl rfl rfl (Adds.single entry _ haside)

/-- A change of a handle that leaves its event and its part in a binding alone is not about the
binding. -/
theorem changeHandle (change : Handle → Handle)
    (hevent : ∀ handle, (change handle).event = handle.event)
    (hsame : ∀ handle, SameFor binding handle (change handle)) (number : Nat) (engine : Engine) :
    Aloof binding engine (engine.changeHandle number change) where
  unheard := Unheard.changeHandle change hevent number engine
  bindings := rfl
  handles other later hlater := by
    rw [handle?_changeHandle] at hlater
    split at hlater
    · obtain ⟨earlier, hearlier, rfl⟩ := Option.map_eq_some_iff.1 hlater
      exact ⟨earlier, hearlier, hsame earlier⟩
    · exact ⟨later, hlater, fun receiver => ⟨Iff.rfl, id⟩⟩
  journal := Adds.refl _ _
  registered := fun _ => id

/-- Someone else begins to listen. -/
theorem listen {listener : Listener} (hother : ∀ receiver, listener ≠ .bound binding receiver)
    (number : Nat) (engine : Engine) :
    Aloof binding engine (engine.listen number (some listener)) := by
  apply changeHandle (·.addListener listener)
  · intro handle
    rw [Handle.addListener]
    split <;> rfl
  · intro handle receiver
    rw [Handle.addListener]
    split
    · exact ⟨Iff.rfl, id⟩
    · refine ⟨?_, id⟩
      simp [Ne.symm (hother receiver)]

/-- Someone else listens no longer. -/
theorem unlisten {listener : Listener} (hother : ∀ receiver, listener ≠ .bound binding receiver)
    (number : Nat) (engine : Engine) :
    Aloof binding engine (engine.unlisten number (some listener)) := by
  apply changeHandle (·.removeListener listener)
  · intro handle
    rfl
  · intro handle receiver
    exact ⟨List.mem_erase_of_ne (Ne.symm (hother receiver)), id⟩

/-- Another listener for a type of events is not about a binding. -/
theorem listenTo {listener : Option Listener}
    (hother : ∀ receiver, listener ≠ some (.bound binding receiver)) (number : Nat) (type : Text)
    (engine : Engine) : Aloof binding engine (engine.listenTo number type listener) := by
  rw [Engine.listenTo]
  split
  · cases listener with
    | none => exact refl engine
    | some listener =>
      apply listen
      intro receiver hlistener
      exact hother receiver (congrArg some hlistener)
  · exact refl engine

/-- Another listener that is removed is not about a binding. -/
theorem unlistenTo {listener : Option Listener}
    (hother : ∀ receiver, listener ≠ some (.bound binding receiver)) (number : Nat) (type : Text)
    (engine : Engine) : Aloof binding engine (engine.unlistenTo number type listener) := by
  rw [Engine.unlistenTo]
  split
  · cases listener with
    | none => exact refl engine
    | some listener =>
      apply unlisten
      intro receiver hlistener
      exact hother receiver (congrArg some hlistener)
  · exact refl engine

/-- Another listener in the slot is not about a binding. -/
theorem setOnChange {listener : Option Listener}
    (hother : ∀ receiver, listener ≠ some (.bound binding receiver)) (number : Nat)
    (engine : Engine) : Aloof binding engine (engine.setOnChange number listener) := by
  apply changeHandle ({ · with onChange := listener })
  · intro handle
    rfl
  · intro handle receiver
    exact ⟨Iff.rfl, fun hslot => absurd hslot (hother receiver)⟩

/-- The end of another binding. -/
theorem unbind {other : Nat} (hother : other ≠ binding) (engine : Engine) :
    Aloof binding engine (engine.unbind other) := by
  rw [Engine.unbind]
  split
  · apply unlistenTo
    intro receiver hlistener
    cases hlistener
    exact hother rfl
  · exact refl engine

/-- Another binding is made. -/
theorem addBinding {engine : Engine} (hother : engine.bindings.length ≠ binding) (receiver : Text) :
    Aloof binding engine (engine.addBinding receiver) := by
  refine of_handles rfl rfl ?_ rfl (Adds.refl _ engine.journal)
  show (engine.bindings ++ [_])[binding]? = _
  by_cases hlt : binding < engine.bindings.length
  · exact List.getElem?_append_left hlt
  · have hbefore : engine.bindings.length ≤ binding := Nat.le_of_not_lt hlt
    rw [List.getElem?_eq_none hbefore, List.getElem?_eq_none]
    rw [List.length_append, List.length_singleton]
    omega

/-- Another binding joins a handle. -/
theorem joinBinding {other : Nat} (hother : other ≠ binding) (number : Nat) (engine : Engine) :
    Aloof binding engine (engine.joinBinding other number) :=
  of_handles rfl rfl (List.getElem?_modify_ne _ _ hother) rfl (Adds.single (.bindingJoined _ _) _ hother)

/-- Another size of the viewport is not about a binding. -/
theorem resize (width height : Extent) (engine : Engine) :
    Aloof binding engine (engine.resize width height) := by
  obtain ⟨pacer, hresize, -⟩ := engine.resize_eq width height
  rw [hresize]
  exact of_eq rfl rfl rfl rfl rfl

/-- No longer observing the viewport is not about a binding. -/
theorem stopObserving (engine : Engine) : Aloof binding engine engine.stopObserving := by
  rw [Engine.stopObserving]
  split
  · dsimp only
    split
    · exact of_handles rfl rfl rfl rfl (Adds.single (.record _) _ trivial)
    · exact of_eq rfl rfl rfl rfl rfl
  · exact refl engine

/-- Detaching all handles is not about a binding. -/
theorem detachAll (engine : Engine) : Aloof binding engine engine.detachAll where
  unheard := Unheard.detachAll engine
  bindings := rfl
  handles number later hlater := by
    simp only [handle?, Engine.detachAll, List.getElem?_mapIdx] at hlater
    obtain ⟨earlier, hearlier, rfl⟩ := Option.map_eq_some_iff.1 hlater
    refine ⟨earlier, hearlier, ?_⟩
    intro receiver
    split <;> exact ⟨Iff.rfl, id⟩
  journal := Adds.refl _ _
  registered := fun _ hnumber => absurd hnumber List.not_mem_nil

/-- The mark of destruction is not about a binding. -/
theorem markDestroyed (engine : Engine) : Aloof binding engine engine.markDestroyed := by
  rw [Engine.markDestroyed]
  split
  · exact refl engine
  · exact of_handles rfl rfl rfl rfl (Adds.single (.record _) _ trivial)

/-- A pass that begins is not about a binding. -/
theorem beginPass (engine : Engine) : Aloof binding engine engine.beginPass :=
  of_handles rfl rfl rfl rfl (Adds.single .passBegan _ trivial)

/-- Giving a further pass up is not about a binding. -/
theorem giveUp (record : LogRecord) (engine : Engine) :
    Aloof binding engine (engine.note (.record record)).dropFollowUp :=
  of_handles rfl rfl rfl rfl (Adds.single (.record record) _ trivial)

/-- Taking the frames that are due off the schedule is not about a binding. -/
theorem takeDue (limit : Option Int) (engine : Engine) : Aloof binding engine (engine.takeDue limit) :=
  of_eq rfl rfl rfl rfl rfl

/-- A frame that starts is not about a binding. -/
theorem startFrame (engine : Engine) : Aloof binding engine engine.startFrame :=
  of_handles rfl rfl rfl rfl (Adds.records (fun _ => trivial) _ _)

/-- Other overrides are not about a binding. -/
theorem replaceOverrides (values : Dict Value) (engine : Engine) :
    Aloof binding engine (engine.replaceOverrides values) :=
  of_handles rfl rfl rfl rfl (Adds.records (fun _ => trivial) _ _)

/-- Reading a query is not about a binding. -/
theorem recalls {media : Text} {tree : Option Query} (h : before.Recalls media tree after) :
    Aloof binding before after := by
  obtain ⟨records, ⟨-, rfl⟩ | ⟨-, rfl⟩⟩ := h
  · exact noteRecords records before
  · exact of_handles rfl rfl rfl rfl (Adds.records (fun _ => trivial) records _)

/-- The facts about a binding do not depend on changes that are not about it. -/
theorem tracks (h : Aloof binding before after) (htracks : Tracks binding before) :
    Tracks binding after := by
  constructor
  · intro number hjoined
    rw [h.bindings]
    apply htracks.joined
    obtain ⟨added, hadded, hjournal⟩ := h.journal
    rw [hjournal] at hjoined
    rcases List.mem_append.1 hjoined with hnew | hold
    · exact absurd rfl (hadded _ hnew)
    · exact hold
  · intro receiver number hbinding
    rw [h.bindings] at hbinding
    exact exists_handle_of_grows h.unheard.grows (htracks.handle receiver number hbinding)
  · intro number later receiver hlater
    obtain ⟨earlier, hearlier, hsame⟩ := h.handles number later hlater
    rw [(hsame receiver).1, h.bindings]
    exact htracks.listens number earlier receiver hearlier
  · intro number later receiver hlater hslot
    obtain ⟨earlier, hearlier, hsame⟩ := h.handles number later hlater
    exact htracks.slot number earlier receiver hearlier ((hsame receiver).2 hslot)
  · have hpresent : after.present = before.present := by
      funext number
      exact h.unheard.present number
    rw [hpresent]
    exact htracks.accounts.adds h.journal
  · intro number hnumber
    exact exists_handle_of_grows h.unheard.grows (htracks.registered number (h.registered hnumber))

/-- What is not about a binding delivers nothing to it. -/
theorem deliveries (h : Aloof binding before after) :
    deliveries binding after.journal = deliveries binding before.journal := by
  apply Adds.keeps (Journal.deliveries binding) ?_ h.journal
  intro entry journal haside
  apply deliveries_cons
  intro receiver isMatch hentry
  subst hentry
  exact haside rfl

/-- What is not about a binding is what an operation may do about it. -/
theorem follows (h : Aloof binding before after) : Follows binding before after where
  lasts := Lasts.unheard h.unheard
  grows := h.unheard.grows
  kept made hmade := h.bindings.trans hmade
  silent _ _ _ := h.deliveries
  joins _ hapart receiver number hjoined := by
    rw [h.bindings] at hjoined
    exact absurd hjoined (hapart receiver number)

/-- A change that is not about the binding is one that any operation may make. -/
theorem synchrony (h : Aloof binding before after) (hvalid : (synchrony binding).Valid before) :
    (Engine.synchrony binding).Valid after ∧ (Engine.synchrony binding).Step before after :=
  ⟨⟨(h.unheard.faithfulness hvalid.1).1, h.tracks hvalid.2⟩, h.follows⟩

end Aloof

/-- A request that is not about the listener that a binding puts on its handle. No host can tell
that listener from others but by ending the binding. -/
def Request.LeavesAlone (binding : Nat) : Request → Prop
  | .addListener _ listener | .removeListener _ listener | .addEventListener _ _ listener
  | .removeEventListener _ _ listener | .setOnChange _ listener =>
    ∀ receiver, listener ≠ some (.bound binding receiver)
  | .unbind other => other ≠ binding
  | _ => True

/-- The requests that call no one are not about the binding. -/
theorem Aloof.of_change {request : Request} {change : Engine → Engine}
    (hleaves : request.LeavesAlone binding) (hchange : request.change? = some change)
    (engine : Engine) : Aloof binding engine (change engine) := by
  cases request with
  | addListener number listener =>
    cases hchange
    exact Aloof.listenTo hleaves number changeType engine
  | removeListener number listener =>
    cases hchange
    exact Aloof.unlistenTo hleaves number changeType engine
  | addEventListener number type listener =>
    cases hchange
    exact Aloof.listenTo hleaves number type engine
  | removeEventListener number type listener =>
    cases hchange
    exact Aloof.unlistenTo hleaves number type engine
  | setOnChange number listener =>
    cases hchange
    exact Aloof.setOnChange hleaves number engine
  | unbind other =>
    cases hchange
    exact Aloof.unbind hleaves engine
  | setSize width height =>
    cases hchange
    exact Aloof.resize width height engine
  | destroy =>
    cases hchange
    have hcancel : Aloof binding engine.stopObserving engine.stopObserving.cancelFrame :=
      Aloof.of_eq rfl rfl rfl rfl rfl
    exact (Aloof.stopObserving engine).trans
      (hcancel.trans ((Aloof.detachAll _).trans (Aloof.markDestroyed _)))
  | setHost host =>
    cases hchange
    exact Aloof.of_eq rfl rfl rfl rfl rfl
  | failSize fails =>
    cases hchange
    exact Aloof.of_eq rfl rfl rfl rfl rfl
  | failUnobserve fails =>
    cases hchange
    exact Aloof.of_eq rfl rfl rfl rfl rfl
  | setRawSize value =>
    cases hchange
    exact Aloof.of_eq rfl rfl rfl rfl rfl
  | setRoom room =>
    cases hchange
    exact Aloof.of_eq rfl rfl rfl rfl rfl
  | matchMedia query => cases hchange
  | bind query receiver => cases hchange
  | flush limit => cases hchange
  | setOverrides values => cases hchange

namespace Tracks

variable {before after engine : Engine}

/-- What leaves the handles and the bindings alone, and the binding where it is. -/
theorem of_journal (h : Tracks binding before) (hhandles : after.handles = before.handles)
    (hbindings : after.bindings = before.bindings) (hregistry : after.registry = before.registry)
    (hjoined : ∀ number, .bindingJoined binding number ∈ after.journal →
      .bindingJoined binding number ∈ before.journal)
    (haccounts : Accounts binding after.journal before.present) : Tracks binding after where
  joined number hnumber := by
    rw [hbindings]
    exact h.joined number (hjoined number hnumber)
  handle receiver number hbinding := by
    rw [hbindings] at hbinding
    rw [handle?, hhandles]
    exact h.handle receiver number hbinding
  listens number handle receiver hhandle := by
    rw [handle?, hhandles] at hhandle
    rw [hbindings]
    exact h.listens number handle receiver hhandle
  slot number handle receiver hhandle := by
    rw [handle?, hhandles] at hhandle
    exact h.slot number handle receiver hhandle
  accounts := by
    have hpresent : after.present = before.present := by
      funext number
      rw [present, present, handle?, handle?, hhandles]
    rw [hpresent]
    exact haccounts
  registered number hnumber := by
    rw [Engine.registered, hregistry] at hnumber
    rw [handle?, hhandles]
    exact h.registered number hnumber

/-- A sweep that begins or ends is not about a binding. -/
theorem sweep (h : Tracks binding before) {isSweeping : Bool} {entry : Entry}
    (haside : entry.IsAsideFor binding) :
    Tracks binding (({ before with isSweeping } : Engine).note entry) := by
  refine h.of_journal rfl rfl rfl ?_ ?_
  · intro number hjoined
    rcases List.mem_cons.1 hjoined with hentry | hold
    · subst hentry
      exact absurd rfl haside
    · exact hold
  · exact h.accounts.adds (Adds.single entry _ haside)

/-- The binding has not joined a handle that is still to be made. -/
theorem not_joined_next (h : Tracks binding engine) (receiver : Text) :
    engine.bindings[binding]? ≠ some ⟨receiver, some engine.handles.length⟩ := by
  intro hbinding
  obtain ⟨handle, hhandle⟩ := h.handle receiver _ hbinding
  rw [handle?, List.getElem?_eq_none (Nat.le_refl _)] at hhandle
  cases hhandle

/-- A new handle is none of those that the accounts are about. -/
theorem accounts_register (h : Tracks binding engine) (media : Text) (tree : Option Query)
    (isMatch : Bool) :
    Accounts binding (engine.register { media, query := tree, isMatch }).journal
      (engine.register { media, query := tree, isMatch }).present := by
  apply Accounts.cons (by simp)
  intro recent number older answer hsplit hpresent
  have hmember : .bindingJoined binding number ∈ engine.journal := by
    rw [hsplit]
    exact List.mem_append_right _ List.mem_cons_self
  obtain ⟨receiver, hbinding⟩ := h.joined number hmember
  have hother : number ≠ engine.handles.length := by
    intro hlast
    subst hlast
    exact h.not_joined_next receiver hbinding
  rw [present_register, if_neg hother] at hpresent
  exact (h.accounts recent number older answer hsplit hpresent).cons (by simp) (by simp) rfl

/-- A new handle has no listeners, so the binding has not joined it. -/
theorem register (h : Tracks binding engine) (media : Text) (tree : Option Query) (isMatch : Bool) :
    Tracks binding (engine.register { media, query := tree, isMatch }) := by
  have hgrows : engine.handles.length ≤
      (engine.register { media, query := tree, isMatch }).handles.length := by simp
  have hjoined : ∀ number,
      .bindingJoined binding number ∈ (engine.register { media, query := tree, isMatch }).journal →
        .bindingJoined binding number ∈ engine.journal := by
    intro number hnumber
    rcases List.mem_cons.1 hnumber with hentry | hold
    · cases hentry
    · exact hold
  refine ⟨fun number hnumber => h.joined number (hjoined number hnumber), ?_, ?_, ?_,
    h.accounts_register media tree isMatch, ?_⟩
  · intro receiver number hbinding
    exact exists_handle_of_grows hgrows (h.handle receiver number hbinding)
  · intro number handle receiver hhandle
    rw [handle?_register] at hhandle
    split at hhandle
    · next hlast =>
      cases hhandle
      subst hlast
      exact ⟨fun hmember => absurd hmember List.not_mem_nil,
        fun hbinding => absurd hbinding (h.not_joined_next receiver)⟩
    · exact h.listens number handle receiver hhandle
  · intro number handle receiver hhandle
    rw [handle?_register] at hhandle
    split at hhandle
    · cases hhandle
      simp
    · exact h.slot number handle receiver hhandle
  · intro number hnumber
    obtain ⟨⟨name, value⟩, hentry, rfl⟩ := List.mem_map.1 hnumber
    rcases Dict.mem_insert hentry with hnew | hold
    · cases hnew
      exact exists_handle (by simp)
    · exact exists_handle_of_grows hgrows (h.registered value (List.mem_map.2 ⟨_, hold, rfl⟩))

/-- A change of an answer, outside of every dispatch. -/
theorem changeAnswer (h : Tracks binding engine) (hclosed : openDispatch engine.journal = none)
    {number : Nat} {handle : Handle} (hhandle : engine.handle? number = some handle)
    (isMatch : Bool) : Tracks binding (engine.changeAnswer number isMatch) := by
  have hlisteners : ∀ other later, (engine.changeAnswer number isMatch).handle? other = some later →
      ∃ earlier, engine.handle? other = some earlier ∧ later.listeners = earlier.listeners ∧
        later.onChange = earlier.onChange := by
    intro other later hlater
    rw [Engine.changeAnswer, handle?_note, handle?_changeHandle] at hlater
    split at hlater
    · obtain ⟨earlier, hearlier, rfl⟩ := Option.map_eq_some_iff.1 hlater
      exact ⟨earlier, hearlier, rfl, rfl⟩
    · exact ⟨later, hlater, rfl, rfl⟩
  have hgrows : engine.handles.length ≤ (engine.changeAnswer number isMatch).handles.length := by
    simp
  constructor
  · intro other hjoined
    rcases List.mem_cons.1 hjoined with hentry | hold
    · cases hentry
    · exact h.joined other hold
  · intro receiver other hbinding
    exact exists_handle_of_grows hgrows (h.handle receiver other hbinding)
  · intro other later receiver hlater
    obtain ⟨earlier, hearlier, hsame, -⟩ := hlisteners other later hlater
    rw [hsame]
    exact h.listens other earlier receiver hearlier
  · intro other later receiver hlater
    obtain ⟨earlier, hearlier, -, hsame⟩ := hlisteners other later hlater
    rw [hsame]
    exact h.slot other earlier receiver hearlier
  · apply Accounts.cons (by simp)
    intro recent other older answer hsplit hpresent
    rw [present_changeAnswer engine number other isMatch hhandle] at hpresent
    split at hpresent
    · next hsame =>
      subst hsame
      cases hpresent
      exact Ledger.change isMatch
    · next hother =>
      exact (h.accounts recent other older answer hsplit hpresent).changeOther hother hclosed isMatch
  · intro other hnumber
    exact exists_handle_of_grows hgrows (h.registered other hnumber)

end Tracks

end Breakpoint.Engine
