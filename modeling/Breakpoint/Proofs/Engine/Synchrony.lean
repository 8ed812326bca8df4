import Breakpoint.Proofs.Engine.Bindings

/-!
# Sweeps keep bindings in sync

In a dispatch the receiver of a binding is told of the change, or it joins the handle while
another listener has control; then it was given the new answer already. So when the dispatch
ends, every binding that listens to the handle knows its answer.
-/

namespace Breakpoint.Engine

open Journal

variable {binding : Nat}

/-- A sweep is under way, begun after `start`, that has kept its promises about a binding. -/
structure Attends (binding : Nat) (start : Engine) (current : Option Nat) (engine : Engine) :
    Prop where
  inSweep : InSweep start current engine
  tracks : Tracks binding engine
  grows : start.handles.length ≤ engine.handles.length
  kept : ∀ made, start.bindings[binding]? = some made → engine.bindings[binding]? = some made
  silent : ∀ made, start.bindings[binding]? = some made → made.handle = none →
    deliveries binding engine.journal = deliveries binding start.journal

/-- A dispatch is to tell the listeners of a list. The binding is among them only if it listens
to the handle, and if it listens and is not among them, it knows the answer. -/
structure IsTelling (binding number : Nat) (event : ChangeEvent) (left : List Listener)
    (engine : Engine) : Prop where
  told : (engine.handle? number).map (·.event) = some event
  listens : ∀ receiver, .bound binding receiver ∈ left →
    engine.bindings[binding]? = some ⟨receiver, some number⟩
  known : ∀ receiver, engine.bindings[binding]? = some ⟨receiver, some number⟩ →
    .bound binding receiver ∉ left →
      (deliveries binding engine.journal).head? = some event.isMatch

/-- The event of a handle has its present answer. -/
theorem present_of_event {engine : Engine} {number : Nat} {event : ChangeEvent} {isMatch : Bool}
    (hevent : (engine.handle? number).map (·.event) = some event)
    (hpresent : engine.present number = some isMatch) : event.isMatch = isMatch := by
  rw [present] at hpresent
  obtain ⟨handle, hhandle, rfl⟩ := Option.map_eq_some_iff.1 hpresent
  rw [hhandle] at hevent
  cases hevent
  rfl

/-- The note of a listener that is told is not about a binding unless the listener is its own. -/
theorem isAsideFor_called (number : Nat) (event : ChangeEvent) {listener : Listener}
    (hother : ∀ receiver, listener ≠ .bound binding receiver) :
    (Entry.called (callbackFor number event listener)).IsAsideFor binding := by
  cases listener with
  | named name => trivial
  | bound other receiver =>
    intro hsame
    subst hsame
    exact hother receiver rfl

/-- What is delivered to a binding when a listener is told. -/
theorem deliveries_noteTold_of_ne {engine : Engine} {number : Nat} {event : ChangeEvent}
    {listener : Listener} (hother : ∀ receiver, listener ≠ .bound binding receiver) :
    deliveries binding (engine.noteTold number event listener).journal =
      deliveries binding engine.journal := by
  have hcalled : ∀ receiver isMatch, Entry.called (callbackFor number event listener) ≠
      .called (.deliver binding receiver isMatch) := by
    intro receiver isMatch hsame
    have haside := isAsideFor_called number event hother
    rw [hsame] at haside
    exact haside rfl
  exact (deliveries_cons hcalled).trans (deliveries_cons (by simp))

namespace Attends

variable {start engine after : Engine} {current : Option Nat}

/-- A sweep keeps its promises about a binding through a change that is not about it. -/
theorem aloof (h : Attends binding start current engine) (haloof : Aloof binding engine after) :
    Attends binding start current after where
  inSweep := h.inSweep.unheard haloof.unheard
  tracks := haloof.tracks h.tracks
  grows := h.grows.trans haloof.unheard.grows
  kept made hmade := haloof.bindings.trans (h.kept made hmade)
  silent made hmade hapart := haloof.deliveries.trans (h.silent made hmade hapart)

/-- The host may have control while a sweep keeps its promises. -/
theorem valid (h : Attends binding start current engine) : (synchrony binding).Valid engine :=
  ⟨h.inSweep.valid, h.tracks⟩

/-- What listeners do in a dispatch keeps its promises, too. -/
theorem listened {number : Nat} {event : ChangeEvent}
    (h : Attends binding start (some number) engine)
    (hevent : (engine.handle? number).map (·.event) = some event)
    (hvalid : (synchrony binding).Valid after) (hstep : Follows binding engine after) :
    Attends binding start (some number) after where
  inSweep := (h.inSweep.listened hevent hvalid.1 hstep.lasts).1
  tracks := hvalid.2
  grows := h.grows.trans hstep.grows
  kept made hmade := hstep.kept made (h.kept made hmade)
  silent made hmade hapart :=
    (hstep.silent made (h.kept made hmade) (.inl hapart)).trans (h.silent made hmade hapart)

/-- A sweep that ends between two dispatches is an operation that the contract allows. -/
theorem ended (h : Attends binding start none engine) :
    (synchrony binding).Valid engine.endSweep ∧
      (synchrony binding).Step start engine.endSweep := by
  obtain ⟨hfaithful, hlasts⟩ := h.inSweep.ended
  refine ⟨⟨hfaithful, h.tracks.sweep trivial⟩, hlasts, h.grows, h.kept, ?_, ?_⟩
  · intro made hmade hquiet
    have hapart : made.handle = none := by
      rcases hquiet with hapart | hsweeping
      · exact hapart
      · exact absurd (hsweeping.symm.trans h.inSweep.start) (by simp)
    exact (deliveries_cons (by simp)).trans (h.silent made hmade hapart)
  · intro hsweeping
    exact absurd (hsweeping.symm.trans h.inSweep.start) (by simp)

/-- Noting that a listener is told of the present event of a handle, which may be the binding's
own listener if the binding listens to that handle. -/
theorem noteTold {number : Nat} {event : ChangeEvent} {listener : Listener}
    (h : Attends binding start (some number) engine)
    (hevent : (engine.handle? number).map (·.event) = some event)
    (hlistens : ∀ receiver, listener = .bound binding receiver →
      engine.bindings[binding]? = some ⟨receiver, some number⟩) :
    Attends binding start (some number) (engine.noteTold number event listener) := by
  have htold : Accounts binding (.told number event listener :: engine.journal) engine.present := by
    apply Accounts.cons (by simp)
    intro recent joined older isMatch hsplit hpresent
    exact (h.tracks.accounts recent joined older isMatch hsplit hpresent).cons (by simp)
      (by simp) rfl
  refine ⟨h.inSweep.noteTold event listener, ?_, h.grows, h.kept, ?_⟩
  · refine h.tracks.of_journal rfl rfl rfl ?_ ?_
    · intro joined hjoined
      rcases List.mem_cons.1 hjoined with hentry | hjoined
      · cases hentry
      · rcases List.mem_cons.1 hjoined with hentry | hold
        · cases hentry
        · exact hold
    · apply Accounts.cons (by simp)
      intro recent joined older isMatch hsplit hpresent
      have hledger := htold recent joined older isMatch hsplit hpresent
      by_cases hown : ∃ receiver, listener = .bound binding receiver
      · obtain ⟨receiver, rfl⟩ := hown
        have hmember : .bindingJoined binding joined ∈
            (engine.note (.told number event (.bound binding receiver))).journal := by
          rw [hsplit]
          exact List.mem_append_right _ List.mem_cons_self
        obtain ⟨other, hbinding⟩ := h.tracks.joined joined (List.mem_of_ne_of_mem (by simp) hmember)
        rw [hlistens receiver rfl] at hbinding
        cases hbinding
        have hmatch := present_of_event hevent hpresent
        subst hmatch
        exact hledger.deliver h.inSweep.dispatch receiver
      · have hother : ∀ receiver, listener ≠ .bound binding receiver :=
          fun receiver hsame => hown ⟨receiver, hsame⟩
        exact hledger.aside (isAsideFor_called number event hother)
  · intro made hmade hapart
    have hother : ∀ receiver, listener ≠ .bound binding receiver := by
      intro receiver hsame
      have hkept := h.kept made hmade
      rw [hlistens receiver hsame] at hkept
      cases hkept
      cases hapart
    exact (deliveries_noteTold_of_ne hother).trans (h.silent made hmade hapart)

/-- Telling the listener in the slot of a handle is a call that the contract allows. -/
theorem tellsSlot {number : Nat} {event : ChangeEvent} {listener : Listener} {handle : Handle}
    (h : Attends binding start (some number) engine)
    (hevent : (engine.handle? number).map (·.event) = some event)
    (hhandle : engine.handle? number = some handle) (hslot : handle.onChange = some listener) :
    Calls (synchrony binding) (callbackFor number event listener)
      (fun after => Attends binding start (some number) after ∧
        (after.handle? number).map (·.event) = some event)
      (engine.noteTold number event listener) := by
  have hnoted : Attends binding start (some number) (engine.noteTold number event listener) := by
    apply h.noteTold hevent
    intro receiver hsame
    subst hsame
    exact absurd hslot (h.tracks.slot number handle receiver hhandle)
  refine ⟨hnoted.valid, trivial, ?_⟩
  intro after hvalid hstep
  exact ⟨hnoted.listened hevent hvalid hstep,
    (hnoted.inSweep.listened hevent hvalid.1 hstep.lasts).2⟩

/-- Telling the listeners of a handle begins with all of them. -/
theorem lists {number : Nat} {event : ChangeEvent} (h : Attends binding start (some number) engine)
    (hevent : (engine.handle? number).map (·.event) = some event) :
    IsTelling binding number event ((engine.handle? number).elim [] (·.listeners)) engine := by
  obtain ⟨handle, hhandle, -⟩ := Option.map_eq_some_iff.1 hevent
  rw [hhandle, Option.elim_some]
  refine ⟨hevent, ?_, ?_⟩
  · intro receiver hmember
    exact (h.tracks.listens number handle receiver hhandle).1 hmember
  · intro receiver hbinding hmember
    exact absurd ((h.tracks.listens number handle receiver hhandle).2 hbinding) hmember

/-- Telling one of the listeners of a list is a call that the contract allows. -/
theorem tells {number : Nat} {event : ChangeEvent} {listener : Listener} {left : List Listener}
    (h : Attends binding start (some number) engine)
    (htelling : IsTelling binding number event (listener :: left) engine) :
    Calls (synchrony binding) (callbackFor number event listener)
      (fun after => Attends binding start (some number) after ∧
        IsTelling binding number event left after)
      (engine.noteTold number event listener) := by
  have hnoted : Attends binding start (some number) (engine.noteTold number event listener) := by
    apply h.noteTold htelling.told
    intro receiver hsame
    subst hsame
    exact htelling.listens receiver List.mem_cons_self
  have hknown : ∀ receiver, engine.bindings[binding]? = some ⟨receiver, some number⟩ →
      .bound binding receiver ∉ left →
        (deliveries binding (engine.noteTold number event listener).journal).head? =
          some event.isMatch := by
    intro receiver hbinding hleft
    by_cases hown : listener = .bound binding receiver
    · subst hown
      exact congrArg List.head? (deliveries_deliver receiver event.isMatch)
    · have hother : ∀ other, listener ≠ .bound binding other := by
        intro other hsame
        have hlistens := htelling.listens other (hsame ▸ List.mem_cons_self)
        rw [hbinding] at hlistens
        cases hlistens
        exact hown hsame
      rw [deliveries_noteTold_of_ne hother]
      apply htelling.known receiver hbinding
      rw [List.mem_cons, not_or]
      exact ⟨Ne.symm hown, hleft⟩
  refine ⟨hnoted.valid, trivial, ?_⟩
  intro after hvalid hstep
  have hsweep := hnoted.inSweep.listened htelling.told hvalid.1 hstep.lasts
  refine ⟨hnoted.listened htelling.told hvalid hstep, hsweep.2, ?_, ?_⟩
  · intro receiver hmember
    exact hstep.kept _ (htelling.listens receiver (List.mem_cons_of_mem _ hmember))
  · intro receiver hbinding hleft
    by_cases hjoined : ∃ other joined, engine.bindings[binding]? = some ⟨other, some joined⟩
    · obtain ⟨other, joined, hbefore⟩ := hjoined
      have hkept := hstep.kept _ hbefore
      rw [hbinding] at hkept
      cases hkept
      rw [hstep.silent _ hbefore (.inr hnoted.inSweep.sweeping)]
      exact hknown receiver hbefore hleft
    · -- The binding has joined the handle while the listener had control.
      have hapart : ∀ other joined, engine.bindings[binding]? ≠ some ⟨other, some joined⟩ :=
        fun other joined hsame => hjoined ⟨other, joined, hsame⟩
      obtain ⟨handle, hhandle, hdelivered⟩ :=
        hstep.joins hnoted.inSweep.sweeping hapart receiver number hbinding
      have hevent := hsweep.2
      rw [hhandle] at hevent
      cases hevent
      exact hdelivered

/-- A sweep begins. -/
theorem begins {entry : Engine} (hvalid : (synchrony binding).Valid entry)
    (hfollows : Follows binding start entry) (hnot : entry.isSweeping = false)
    (reason : SweepReason) : Attends binding start none (entry.beginSweep reason) where
  inSweep := InSweep.begins hvalid.1 hfollows.lasts hnot reason
  tracks := hvalid.2.sweep trivial
  grows := hfollows.grows
  kept := hfollows.kept
  silent made hmade hapart :=
    (deliveries_cons (by simp)).trans (hfollows.silent made hmade (.inl hapart))

/-- The answer of a handle changes between two dispatches. -/
theorem changeAnswer {number : Nat} {handle : Handle} {isMatch : Bool}
    (h : Attends binding start none engine) (hhandle : engine.handle? number = some handle)
    (hchange : isMatch ≠ handle.isMatch) :
    Attends binding start (some number) (engine.changeAnswer number isMatch) ∧
      ((engine.changeAnswer number isMatch).handle? number).map (·.event) =
        some ⟨isMatch, handle.media⟩ := by
  obtain ⟨hsweep, hevent⟩ := h.inSweep.changeAnswer hhandle hchange
  have hgrows : start.handles.length ≤ (engine.changeAnswer number isMatch).handles.length := by
    rw [length_changeAnswer]
    exact h.grows
  have htracks := h.tracks.changeAnswer h.inSweep.dispatch hhandle isMatch
  refine ⟨⟨hsweep, htracks, hgrows, h.kept, ?_⟩, hevent⟩
  intro made hmade hapart
  exact (deliveries_cons (by simp)).trans (h.silent made hmade hapart)

/-- The dispatch of a handle ends when no listener is left to tell. -/
theorem closes {number : Nat} {event : ChangeEvent} (h : Attends binding start (some number) engine)
    (htelling : IsTelling binding number event [] engine) :
    Attends binding start none (engine.note (.dispatchEnded number)) := by
  refine ⟨h.inSweep.closes, ?_, h.grows, h.kept, ?_⟩
  · refine h.tracks.of_journal rfl rfl rfl ?_ ?_
    · intro joined hjoined
      exact List.mem_of_ne_of_mem (by simp) hjoined
    · apply Accounts.cons (by simp)
      intro recent joined older isMatch hsplit hpresent
      apply (h.tracks.accounts recent joined older isMatch hsplit hpresent).ended
      intro hopen
      have hsame : joined = number := by
        rw [h.inSweep.dispatch] at hopen
        cases hopen
        rfl
      subst hsame
      have hmember : .bindingJoined binding joined ∈ engine.journal := by
        rw [hsplit]
        exact List.mem_append_right _ List.mem_cons_self
      obtain ⟨receiver, hbinding⟩ := h.tracks.joined joined hmember
      rw [htelling.known receiver hbinding List.not_mem_nil,
        present_of_event htelling.told hpresent]
  · intro made hmade hapart
    exact (deliveries_cons (by simp)).trans (h.silent made hmade hapart)

end Attends

/-- What the binding's receiver owes to a dispatch does not depend on changes that are not about
the binding. -/
theorem IsTelling.aloof {engine after : Engine} {number : Nat} {event : ChangeEvent}
    {left : List Listener} (h : IsTelling binding number event left engine)
    (haloof : Aloof binding engine after) : IsTelling binding number event left after where
  told := (haloof.unheard.events number).trans h.told
  listens receiver hmember := haloof.bindings.trans (h.listens receiver hmember)
  known receiver hbinding hmember := by
    rw [haloof.bindings] at hbinding
    rw [haloof.deliveries]
    exact h.known receiver hbinding hmember

/-- Errors are recorded without a word about a binding. -/
theorem allowsErrors_of_aloof {assertion : Engine → Prop}
    (h : ∀ {engine after}, assertion engine → Aloof binding engine after → assertion after) :
    AllowsErrors assertion :=
  fun engine record _ hassertion => h hassertion (Aloof.note (.record record) trivial engine)

/-- The binding's part in the outline of a sweep. Between two dispatches nothing is owed to it; in
the dispatch of a handle it is told, or knows the answer. -/
def trackOutline (binding : Nat) (reason : SweepReason) (start : Engine) :
    SweepOutline (synchrony binding) reason start.followUps
      (fun entry => (synchrony binding).Valid entry ∧ (synchrony binding).Step start entry ∧
        entry.followUps = start.followUps)
      (fun _ after => (synchrony binding).Valid after ∧ (synchrony binding).Step start after) where
  between _ := Attends binding start none
  visiting _ _ := Attends binding start none
  opening _ _ number event engine :=
    Attends binding start (some number) engine ∧
      (engine.handle? number).map (·.event) = some event
  telling _ _ number event left engine :=
    Attends binding start (some number) engine ∧ IsTelling binding number event left engine
  passed _ := Attends binding start none
  finished := Attends binding start none
  broken := Attends binding start none
  visiting_allowsErrors := allowsErrors_of_aloof Attends.aloof
  opening_allowsErrors := allowsErrors_of_aloof fun h haloof =>
    ⟨h.1.aloof haloof, (haloof.unheard.events _).trans h.2⟩
  telling_allowsErrors := allowsErrors_of_aloof fun h haloof =>
    ⟨h.1.aloof haloof, h.2.aloof haloof⟩
  passed_allowsErrors := allowsErrors_of_aloof Attends.aloof
  joins := by
    intro engine hentry _
    obtain ⟨hvalid, hstep, -⟩ := hentry
    have haloof : Aloof binding engine engine.requestFollowUp := Aloof.of_eq rfl rfl rfl rfl rfl
    obtain ⟨hafter, hrest⟩ := haloof.synchrony hvalid
    exact ⟨hafter, hstep.trans hrest⟩
  begins := by
    intro engine hentry hnot
    obtain ⟨hvalid, hstep, hlimit⟩ := hentry
    exact ⟨hlimit, Attends.begins hvalid hstep hnot reason⟩
  unreadable h _ := h.aloof (Aloof.beginPass _)
  misread h _ _ := h.aloof (Aloof.beginPass _)
  reads h _ := h.aloof (Aloof.beginPass _)
  skips h _ := h
  fails h _ _ _ := h
  changes h hhandle _ _ _ hchange := h.changeAnswer hhandle hchange
  opens h hhandle hslot := h.1.tellsSlot h.2 hhandle hslot
  lists h := ⟨h.1, h.1.lists h.2⟩
  tells h := h.1.tells h.2
  closes h := h.1.closes h.2
  ends h := h
  rests h _ := h
  follows h _ _ _ := h
  givesUp h _ _ _ := h.aloof (Aloof.giveUp _ _)
  stalls h _ _ := h
  closesFinished h := h.ended
  closesBroken _ h := h.ended

end Breakpoint.Engine
