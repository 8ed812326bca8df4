import Breakpoint.Proofs.Engine.Unheard
import Breakpoint.Proofs.Query.Evaluation

/-!
# Fresh answers

A handle is fresh if its answer is what its query evaluates to in the present size, with the
present overrides and preferences. Answers stay fresh as long as these stay as they are.

Fresh answers need a host that can be asked and a registry in which every name has a handle of
its own. Neither is lost by what an engine does. Most of what it does changes no answer, no size
and no override at all.
-/

namespace Breakpoint

/-- A handle without those who listen to it. -/
def Handle.core (handle : Handle) : Handle := { handle with listeners := [], onChange := none }

/-- Two handles that differ in their listeners at most. -/
structure Handle.SameCore (first second : Handle) : Prop where
  media : first.media = second.media
  query : first.query = second.query
  isMatch : first.isMatch = second.isMatch
  isDetached : first.isDetached = second.isDetached

/-- Handles with the same core differ in their listeners at most. -/
theorem Handle.sameCore {first second : Handle} (h : first.core = second.core) :
    first.SameCore second := by
  simp only [core, Handle.mk.injEq] at h
  exact ⟨h.1, h.2.1, h.2.2.1, h.2.2.2.2.2⟩

namespace Engine

/-- The size of the viewport. -/
def size (engine : Engine) : Extent × Extent := (engine.viewport.width, engine.viewport.height)

/-- The handle exists, and if it has a query, its answer is what the query evaluates to. -/
def IsFresh (engine : Engine) (number : Nat) : Prop :=
  ∃ handle, engine.handle? number = some handle ∧ ∀ query, handle.query = some query →
    query.evaluate (engine.surroundings engine.size engine.preferences) = .ok handle.isMatch

/-- Every registered handle is fresh. -/
def IsSettled (engine : Engine) : Prop := ∀ number ∈ engine.registered, engine.IsFresh number

/-- A sweep was broken off. -/
def HasWarned (engine : Engine) : Prop :=
  ∃ reason passes, .record (followUpWarning reason passes) ∈ engine.journal

/-- Neither a further pass nor a frame is to come. -/
def IsQuiet (engine : Engine) : Prop :=
  engine.followUpRequested = false ∧ engine.pacer.isPending = false

/-- What the sides of an engine may rely on: the host can be asked, trees are those of their
texts, and every registered name has a handle of its own. -/
structure IsGrounded (engine : Engine) : Prop where
  followUps : ∃ limit, engine.followUps = .atMost limit
  sizeFails : engine.provider.sizeFails = false
  rawSize : engine.provider.rawSize = none
  observing : engine.isObserving = true
  observers : engine.viewport.observers ≠ []
  parsed : ∀ media tree, engine.parsed.get? media = some tree → Query.ReadsAs media tree
  query : ∀ number handle, engine.handle? number = some handle →
    Query.ReadsAs handle.media handle.query
  unread : ∀ number handle, engine.handle? number = some handle → handle.query = none →
    handle.isMatch = false
  attached : ∀ number handle, engine.handle? number = some handle → handle.isDetached = false
  registry : ∀ media number, (media, number) ∈ engine.registry.entries →
    ∃ handle, engine.handle? number = some handle ∧ handle.media = media

/-! ## Fresh answers -/

/-- The later state has the same surroundings, keeps the answers, and registers fresh handles
only. -/
structure Undisturbed (before after : Engine) : Prop where
  size : after.size = before.size
  overrides : after.overrides = before.overrides
  host : after.host = before.host
  handles : ∀ number handle, before.handle? number = some handle →
    ∃ later, after.handle? number = some later ∧ later.query = handle.query ∧
      later.isMatch = handle.isMatch
  registered : ∀ number ∈ after.registered, number ∈ before.registered ∨ after.IsFresh number

/-- The surroundings of a query depend on the overrides alone, and the preferences on the host. -/
theorem surroundings_congr {before after : Engine} (hoverrides : after.overrides = before.overrides)
    (hhost : after.host = before.host) (size : Extent × Extent) :
    after.surroundings size after.preferences = before.surroundings size before.preferences := by
  simp only [surroundings, preferences, hoverrides, hhost]

/-- A fresh answer stays fresh in the same surroundings. -/
theorem IsFresh.undisturbed {before after : Engine} {number : Nat} (h : before.IsFresh number)
    (hundisturbed : Undisturbed before after) : after.IsFresh number := by
  obtain ⟨handle, hhandle, hanswer⟩ := h
  obtain ⟨later, hlater, hquery, hmatch⟩ := hundisturbed.handles number handle hhandle
  refine ⟨later, hlater, ?_⟩
  intro query hsome
  rw [surroundings_congr hundisturbed.overrides hundisturbed.host, hundisturbed.size, hmatch]
  exact hanswer query (hquery ▸ hsome)

/-- What two changes in turn leave undisturbed, both together do. -/
theorem Undisturbed.trans {before middle after : Engine} (hfirst : Undisturbed before middle)
    (hsecond : Undisturbed middle after) : Undisturbed before after where
  size := hsecond.size.trans hfirst.size
  overrides := hsecond.overrides.trans hfirst.overrides
  host := hsecond.host.trans hfirst.host
  handles number handle hhandle := by
    obtain ⟨between, hbetween, hquery, hmatch⟩ := hfirst.handles number handle hhandle
    obtain ⟨later, hlater, hquery', hmatch'⟩ := hsecond.handles number between hbetween
    exact ⟨later, hlater, hquery'.trans hquery, hmatch'.trans hmatch⟩
  registered number hnumber := by
    rcases hsecond.registered number hnumber with hnumber | hfresh
    · rcases hfirst.registered number hnumber with hnumber | hfresh
      · exact .inl hnumber
      · exact .inr (hfresh.undisturbed hsecond)
    · exact .inr hfresh

/-! ## Changes beside the answers -/

/-- The later state differs only in the cache of trees, in those who listen, in the journal, in the
room on the stack, and in the frames other than the pending one. -/
structure Alike (before after : Engine) : Prop where
  same : after = { before with
    pacer := after.pacer, parsed := after.parsed, handles := after.handles,
    bindings := after.bindings, room := after.room, journal := after.journal }
  pending : after.pacer.isPending = before.pacer.isPending
  parsed : ∀ media tree, after.parsed.get? media = some tree →
    before.parsed.get? media = some tree ∨ Query.ReadsAs media tree
  handles : ∀ number, (after.handle? number).map Handle.core =
    (before.handle? number).map Handle.core
  journal : before.journal ⊆ after.journal

namespace Alike

variable {before middle after : Engine}

/-- A state differs from itself in nothing. -/
theorem refl (engine : Engine) : Alike engine engine :=
  ⟨rfl, rfl, fun _ _ => .inl, fun _ => rfl, fun _ => id⟩

/-- What was bound and written into the journal is all that is new. -/
theorem of_journal (hsame : after = { before with
      bindings := after.bindings, journal := after.journal })
    (hjournal : before.journal ⊆ after.journal) : Alike before after := by
  refine ⟨?_, ?_, ?_, ?_, hjournal⟩
  · rw [hsame]
  · rw [hsame]
  · rw [hsame]
    exact fun _ _ => .inl
  · rw [hsame]
    exact fun _ => rfl

/-- A new entry of the journal changes nothing else. -/
theorem note (entry : Entry) (engine : Engine) : Alike engine (engine.note entry) :=
  of_journal rfl (List.subset_cons_self _ _)

/-- New records change nothing but the journal. -/
theorem noteRecords (records : List LogRecord) (engine : Engine) :
    Alike engine (engine.noteRecords records) :=
  of_journal rfl (List.subset_append_right _ _)

/-- That a listener was told changes nothing but the journal. -/
theorem noteTold (number : Nat) (event : ChangeEvent) (listener : Listener) (engine : Engine) :
    Alike engine (engine.noteTold number event listener) :=
  of_journal rfl fun _ hentry => List.mem_cons_of_mem _ (List.mem_cons_of_mem _ hentry)

/-- A new binding changes nothing but the journal and those who listen. -/
theorem addBinding (receiver : Text) (engine : Engine) :
    Alike engine (engine.addBinding receiver) :=
  of_journal rfl fun _ => id

/-- Joining a binding to its handle changes only who listens. -/
theorem joinBinding (binding number : Nat) (engine : Engine) :
    Alike engine (engine.joinBinding binding number) :=
  of_journal rfl (List.subset_cons_self _ _)

/-- The room on the stack is beside the answers. -/
theorem setRoom (room : Nat) (engine : Engine) : Alike engine { engine with room } :=
  ⟨rfl, rfl, fun _ _ => .inl, fun _ => rfl, fun _ => id⟩

/-- The frames that are due are beside the answers. -/
theorem takeDue (limit : Option Int) (engine : Engine) : Alike engine (engine.takeDue limit) :=
  ⟨rfl, rfl, fun _ _ => .inl, fun _ => rfl, fun _ => id⟩

/-- A change beside the core of a handle is beside the answers. -/
theorem changeHandle (change : Handle → Handle)
    (hchange : ∀ handle, (change handle).core = handle.core) (number : Nat) (engine : Engine) :
    Alike engine (engine.changeHandle number change) := by
  refine ⟨rfl, rfl, fun _ _ => .inl, ?_, fun _ => id⟩
  intro other
  rw [handle?_changeHandle]
  split
  · rw [Option.map_map]
    congr 1
    funext handle
    exact hchange handle
  · rfl

/-- Listening is beside the answers. -/
theorem listen (number : Nat) (listener : Option Listener) (engine : Engine) :
    Alike engine (engine.listen number listener) := by
  cases listener with
  | none => exact refl engine
  | some listener =>
    refine changeHandle (·.addListener listener) ?_ number engine
    intro handle
    rw [Handle.addListener]
    split <;> rfl

/-- No longer listening is beside the answers. -/
theorem unlisten (number : Nat) (listener : Option Listener) (engine : Engine) :
    Alike engine (engine.unlisten number listener) := by
  cases listener with
  | none => exact refl engine
  | some listener => exact changeHandle (·.removeListener listener) (fun _ => rfl) number engine

/-- Ending a binding is beside the answers. -/
theorem unbind (binding : Nat) (engine : Engine) : Alike engine (engine.unbind binding) := by
  rw [Engine.unbind]
  split
  · rw [unlistenTo, if_pos rfl]
    exact unlisten _ _ _
  · exact refl engine

/-- Reading a query changes nothing but the cache of trees and the journal. -/
theorem recalls {media : Text} {tree : Option Query} (h : before.Recalls media tree after) :
    Alike before after := by
  obtain ⟨records, ⟨-, rfl⟩ | ⟨htree, rfl⟩⟩ := h
  · exact noteRecords records before
  · refine ⟨rfl, rfl, ?_, fun _ => rfl, List.subset_append_right _ _⟩
    intro other remembered hremembered
    have hinsert : (before.parsed.insert media tree).get? other = some remembered := hremembered
    rw [Dict.get?_insert] at hinsert
    split at hinsert
    · next hsame =>
      cases hinsert
      exact .inr (hsame ▸ htree)
    · exact .inl hinsert

/-- A handle of the later state was there before, and is the same but for its listeners. -/
theorem handle (h : Alike before after) {number : Nat} {later : Handle}
    (hlater : after.handle? number = some later) :
    ∃ earlier, before.handle? number = some earlier ∧ later.SameCore earlier := by
  have hsame := h.handles number
  rw [hlater, Option.map_some] at hsame
  obtain ⟨earlier, hearlier, hcore⟩ := Option.map_eq_some_iff.1 hsame.symm
  exact ⟨earlier, hearlier, Handle.sameCore hcore.symm⟩

/-- A handle of the earlier state is still there, the same but for its listeners. -/
theorem handle_later (h : Alike before after) {number : Nat} {earlier : Handle}
    (hearlier : before.handle? number = some earlier) :
    ∃ later, after.handle? number = some later ∧ later.SameCore earlier := by
  have hsame := h.handles number
  rw [hearlier, Option.map_some] at hsame
  obtain ⟨later, hlater, hcore⟩ := Option.map_eq_some_iff.1 hsame
  exact ⟨later, hlater, Handle.sameCore hcore⟩

/-- What is alike is undisturbed. -/
theorem undisturbed (h : Alike before after) : Undisturbed before after where
  size := by rw [h.same]; rfl
  overrides := by rw [h.same]
  host := by rw [h.same]
  handles number earlier hearlier := by
    obtain ⟨later, hlater, hsame⟩ := h.handle_later hearlier
    exact ⟨later, hlater, hsame.query, hsame.isMatch⟩
  registered number hnumber := by
    rw [h.same] at hnumber
    exact .inl hnumber

/-- The sides of an engine may rely on the same after a change beside the answers. -/
theorem grounded (h : Alike before after) (hgrounded : before.IsGrounded) : after.IsGrounded where
  followUps := by
    rw [h.same]
    exact hgrounded.followUps
  sizeFails := by
    rw [h.same]
    exact hgrounded.sizeFails
  rawSize := by
    rw [h.same]
    exact hgrounded.rawSize
  observing := by
    rw [h.same]
    exact hgrounded.observing
  observers := by
    rw [h.same]
    exact hgrounded.observers
  parsed media tree hparsed := by
    rcases h.parsed media tree hparsed with hparsed | htree
    · exact hgrounded.parsed media tree hparsed
    · exact htree
  query number later hlater := by
    obtain ⟨earlier, hearlier, hsame⟩ := h.handle hlater
    rw [hsame.query, hsame.media]
    exact hgrounded.query number earlier hearlier
  unread number later hlater hnone := by
    obtain ⟨earlier, hearlier, hsame⟩ := h.handle hlater
    rw [hsame.isMatch]
    exact hgrounded.unread number earlier hearlier (hsame.query ▸ hnone)
  attached number later hlater := by
    obtain ⟨earlier, hearlier, hsame⟩ := h.handle hlater
    rw [hsame.isDetached]
    exact hgrounded.attached number earlier hearlier
  registry media number hregistered := by
    rw [h.same] at hregistered
    obtain ⟨earlier, hearlier, hmedia⟩ := hgrounded.registry media number hregistered
    obtain ⟨later, hlater, hsame⟩ := h.handle_later hearlier
    exact ⟨later, hlater, hsame.media.trans hmedia⟩

end Alike

namespace IsGrounded

variable {engine after : Engine}

/-- The pacer, the overrides, the sweep and the journal do not matter. -/
theorem of_same (h : engine.IsGrounded) (hsame : after = { engine with
      pacer := after.pacer, overrides := after.overrides, isSweeping := after.isSweeping,
      followUpRequested := after.followUpRequested, journal := after.journal }) :
    after.IsGrounded := by
  rw [hsame]
  exact ⟨h.followUps, h.sizeFails, h.rawSize, h.observing, h.observers, h.parsed, h.query,
    h.unread, h.attached, h.registry⟩

/-- The size can always be read. -/
theorem providedSize (h : engine.IsGrounded) :
    engine.providedSize = .ok (.ok engine.viewport.width, .ok engine.viewport.height) := by
  simp [Engine.providedSize, h.sizeFails, h.rawSize]

/-- The tree that is found for a text is the one that is read from it. -/
theorem tree (h : engine.IsGrounded) {media : Text} {tree : Option Query}
    (hrecalls : engine.Recalls media tree after) : Query.ReadsAs media tree := by
  obtain ⟨records, ⟨hknown, -⟩ | ⟨htree, -⟩⟩ := hrecalls
  · exact h.parsed media tree hknown
  · exact htree

/-- Every query of a handle has an answer. -/
theorem evaluate_isOk (h : engine.IsGrounded) {number : Nat} {handle : Handle} {query : Query}
    (hhandle : engine.handle? number = some handle) (hquery : handle.query = some query)
    (surroundings : Surroundings) : ∃ isMatch, query.evaluate surroundings = .ok isMatch := by
  have hread := h.query number handle hhandle
  rw [hquery] at hread
  exact Query.evaluate_isOk hread surroundings

/-- A handle that is registered with the tree and the answer of its text. -/
theorem register (h : engine.IsGrounded) {media : Text} {tree : Option Query} {isMatch : Bool}
    (htree : Query.ReadsAs media tree) (hfirst : engine.IsFirstAnswer tree isMatch) :
    (engine.register { media, query := tree, isMatch }).IsGrounded := by
  have hcases : ∀ number handle,
      (engine.register { media, query := tree, isMatch }).handle? number = some handle →
        handle = { media, query := tree, isMatch } ∨ engine.handle? number = some handle := by
    intro number handle hhandle
    rw [handle?_register] at hhandle
    split at hhandle
    · cases hhandle
      exact .inl rfl
    · exact .inr hhandle
  refine ⟨h.followUps, h.sizeFails, h.rawSize, h.observing, h.observers, h.parsed, ?_, ?_, ?_, ?_⟩
  · intro number handle hhandle
    rcases hcases number handle hhandle with rfl | hold
    · exact htree
    · exact h.query number handle hold
  · intro number handle hhandle hnone
    rcases hcases number handle hhandle with rfl | hold
    · cases hnone
      exact hfirst
    · exact h.unread number handle hold hnone
  · intro number handle hhandle
    rcases hcases number handle hhandle with rfl | hold
    · rfl
    · exact h.attached number handle hold
  · intro other number hregistered
    rcases Dict.mem_insert hregistered with hnew | hold
    · cases hnew
      exact ⟨_, (handle?_register _ _ _).trans (if_pos rfl), rfl⟩
    · obtain ⟨handle, hhandle, hmedia⟩ := h.registry other number hold
      have hlt : number < engine.handles.length := (List.getElem?_eq_some_iff.1 hhandle).1
      refine ⟨handle, ?_, hmedia⟩
      rw [handle?_register, if_neg (Nat.ne_of_lt hlt)]
      exact hhandle

/-- The answer of a handle with a query may change. -/
theorem changeAnswer (h : engine.IsGrounded) {number : Nat} {handle : Handle}
    (hhandle : engine.handle? number = some handle) (hquery : handle.query ≠ none)
    (isMatch : Bool) : (engine.changeAnswer number isMatch).IsGrounded := by
  have hcases : ∀ other later, (engine.changeAnswer number isMatch).handle? other = some later →
      ∃ earlier, engine.handle? other = some earlier ∧ later.media = earlier.media ∧
        later.query = earlier.query ∧ later.isDetached = earlier.isDetached ∧
          (later.isMatch = earlier.isMatch ∨ earlier.query ≠ none) := by
    intro other later hlater
    rw [Engine.changeAnswer, handle?_note, handle?_changeHandle] at hlater
    split at hlater
    · next hsame =>
      subst hsame
      rw [hhandle] at hlater
      cases hlater
      exact ⟨handle, hhandle, rfl, rfl, rfl, .inr hquery⟩
    · exact ⟨later, hlater, rfl, rfl, rfl, .inl rfl⟩
  refine ⟨h.followUps, h.sizeFails, h.rawSize, h.observing, h.observers, h.parsed, ?_, ?_, ?_, ?_⟩
  · intro other later hlater
    obtain ⟨earlier, hearlier, hmedia, hsame, -, -⟩ := hcases other later hlater
    rw [hmedia, hsame]
    exact h.query other earlier hearlier
  · intro other later hlater hnone
    obtain ⟨earlier, hearlier, -, hsame, -, hmatch | hsome⟩ := hcases other later hlater
    · rw [hmatch]
      exact h.unread other earlier hearlier (hsame ▸ hnone)
    · exact absurd (hsame ▸ hnone) hsome
  · intro other later hlater
    obtain ⟨earlier, hearlier, -, -, hdetached, -⟩ := hcases other later hlater
    rw [hdetached]
    exact h.attached other earlier hearlier
  · intro media other hregistered
    obtain ⟨earlier, hearlier, hmedia⟩ := h.registry media other hregistered
    rw [Engine.changeAnswer, handle?_note, handle?_changeHandle]
    split
    · rw [hearlier]
      exact ⟨_, rfl, hmedia⟩
    · exact ⟨earlier, hearlier, hmedia⟩

/-- A viewport of another size leaves an engine grounded. -/
theorem resize (h : engine.IsGrounded) (width height : Extent) :
    (engine.resize width height).IsGrounded := by
  obtain ⟨pacer, hresize, -⟩ := engine.resize_eq width height
  rw [hresize]
  exact ⟨h.followUps, h.sizeFails, h.rawSize, h.observing, h.observers, h.parsed, h.query,
    h.unread, h.attached, h.registry⟩

end IsGrounded

end Engine

end Breakpoint
