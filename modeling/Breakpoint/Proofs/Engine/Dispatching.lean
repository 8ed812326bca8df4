import Breakpoint.Proofs.Engine.Listeners

/-!
# Who is told of an event, and in which order

When a handle changes its answer, the listener in its slot is called first. Those who listen when
that one has returned are called next, each once and in the order in which they were added,
whatever any of them does meanwhile.
-/

namespace Breakpoint

namespace Journal

/-- Who is told of which event of a handle by an entry. -/
def toldBy (number : Nat) : Entry → List (ChangeEvent × Listener)
  | .told handle event listener => if handle = number then [(event, listener)] else []
  | _ => []

/-- Who was told of which event of a handle, in order, until its dispatch ended. What comes after
the end is not looked at. -/
def toldInDispatch (number : Nat) : Journal → List (ChangeEvent × Listener)
  | [] => []
  | entry :: earlier =>
    if .dispatchEnded number ∈ earlier then toldInDispatch number earlier
    else toldInDispatch number earlier ++ toldBy number entry

variable {number : Nat} {added more : Journal}

/-- An entry that tells no one of a handle adds no one who was told. -/
theorem toldBy_eq_nil {entry : Entry} (h : ∀ event listener, entry ≠ .told number event listener) :
    toldBy number entry = [] := by
  cases entry with
  | told handle event listener =>
    apply if_neg
    rintro rfl
    exact h event listener rfl
  | _ => rfl

/-- Entries that tell no one do not count. -/
theorem toldInDispatch_append (h : ∀ event listener, .told number event listener ∉ more) :
    toldInDispatch number (more ++ added) = toldInDispatch number added := by
  induction more with
  | nil => rfl
  | cons entry more ih =>
    have hrest := ih fun event listener hmember => h event listener (List.mem_cons_of_mem _ hmember)
    have hnone : toldBy number entry = [] := by
      apply toldBy_eq_nil
      rintro event listener rfl
      exact h event listener List.mem_cons_self
    rw [List.cons_append, toldInDispatch, hnone, List.append_nil, ite_self, hrest]

/-- Nothing counts after the end of the dispatch. -/
theorem toldInDispatch_of_ended (h : .dispatchEnded number ∈ added) :
    toldInDispatch number (more ++ added) = toldInDispatch number added := by
  induction more with
  | nil => rfl
  | cons entry more ih =>
    rw [List.cons_append, toldInDispatch, if_pos (List.mem_append_right _ h), ih]

/-- Another listener is told and called. -/
theorem toldInDispatch_told (h : .dispatchEnded number ∉ added) (event : ChangeEvent)
    (listener : Listener) (callback : Callback) :
    toldInDispatch number (.called callback :: .told number event listener :: added) =
      toldInDispatch number added ++ [(event, listener)] := by
  simp [toldInDispatch, toldBy, h]

end Journal

namespace Engine

open Journal

/-! ## A dispatch that is under way -/

/-- The listeners who are to be told of an event of a handle, from some journal on. -/
structure Plan where
  number : Nat
  event : ChangeEvent
  expected : List Listener
  base : Journal

/-- The dispatch goes according to the plan: either the listeners that remain come next, or all have
been told and the dispatch has ended. -/
inductive Plan.Follows (plan : Plan) (remains : List Listener → Prop) (journal : Journal) : Prop where
  | underway {added : Journal} {left : List Listener} (hremains : remains left)
      (hjournal : journal = added ++ plan.base) (hopen : .dispatchEnded plan.number ∉ added)
      (htold : toldInDispatch plan.number added ++ left.map (plan.event, ·) =
        plan.expected.map (plan.event, ·))
  | finished {added : Journal} (hjournal : journal = added ++ plan.base)
      (hended : .dispatchEnded plan.number ∈ added)
      (htold : toldInDispatch plan.number added = plan.expected.map (plan.event, ·))

/-- The announcement is the planned one. -/
def Plan.Announces (plan : Plan) (announcement : Announcement) : Prop :=
  announcement.number = plan.number ∧ announcement.event = plan.event

/-- The listeners whom a stage of the dispatch has still to tell. -/
inductive Plan.Remains (plan : Plan) (engine : Engine) : Stage → List Listener → Prop where
  | opening {announcement : Announcement} (hplanned : plan.Announces announcement)
      (hslot : engine.slot announcement.number = none) :
      Remains plan engine (.opening announcement) (engine.listeners announcement.number)
  | listing {announcement : Announcement} (hplanned : plan.Announces announcement) :
      Remains plan engine (.listing announcement) (engine.listeners announcement.number)
  | telling {announcement : Announcement} {left : List Listener}
      (hplanned : plan.Announces announcement) :
      Remains plan engine (.telling announcement left) left

/-- The listeners whom a suspended dispatch has still to tell. -/
def Plan.Waits (plan : Plan) (waiting : List Suspension) (left : List Listener) : Prop :=
  ∃ announcement, plan.Announces announcement ∧ turns waiting = [.listed announcement left]

variable {engine after : Engine} {stage next : Stage} {plan : Plan}
  {remains others : List Listener → Prop} {journal more : Journal}

/-- Entries that neither tell anyone of the handle nor end its dispatch. -/
theorem Plan.Follows.add (h : plan.Follows remains journal)
    (hremains : ∀ left, remains left → others left)
    (htold : ∀ event listener, .told plan.number event listener ∉ more)
    (hended : .dispatchEnded plan.number ∉ more) : plan.Follows others (more ++ journal) := by
  cases h with
  | @underway added left hleft hjournal hopen hsofar =>
    have hstill : .dispatchEnded plan.number ∉ more ++ added := by simp [hended, hopen]
    refine .underway (hremains left hleft) ?_ hstill ?_
    · rw [hjournal, List.append_assoc]
    · rw [toldInDispatch_append htold, hsofar]
  | finished hjournal hend hall =>
    refine .finished ?_ (List.mem_append_right more hend) ?_
    · rw [hjournal, List.append_assoc]
    · rw [toldInDispatch_append htold, hall]

/-- Minor entries leave a dispatch to its plan. -/
theorem Plan.Follows.adds {before later : Journal} (h : plan.Follows remains before)
    (hremains : ∀ left, remains left → others left) (hadds : Adds Entry.IsMinor before later) :
    plan.Follows others later := by
  obtain ⟨added, hminor, rfl⟩ := hadds
  exact h.add hremains (fun _ _ hmember => hminor _ hmember) fun hmember => hminor _ hmember

/-- A plan is followed whatever else is known of those who remain. -/
theorem Plan.Follows.mono (h : plan.Follows remains journal)
    (hremains : ∀ left, remains left → others left) : plan.Follows others journal :=
  h.adds hremains (Adds.refl _ _)

/-- When no one remains to be told, the dispatch has ended, and what follows does not matter. -/
theorem Plan.Follows.past (h : plan.Follows remains journal) (hnone : ∀ left, ¬ remains left)
    (others : List Listener → Prop) (more : Journal) : plan.Follows others (more ++ journal) := by
  cases h with
  | underway hleft => exact absurd hleft (hnone _)
  | finished hjournal hend hall =>
    refine .finished ?_ (List.mem_append_right more hend) ?_
    · rw [hjournal, List.append_assoc]
    · rw [toldInDispatch_of_ended hend, hall]

/-- The dispatch ends when it has told everyone. -/
theorem Plan.Follows.ends (h : plan.Follows remains journal) (hnone : ∀ left, remains left → left = [])
    (others : List Listener → Prop) :
    plan.Follows others (.dispatchEnded plan.number :: journal) := by
  cases h with
  | @underway added left hleft hjournal hopen htold =>
    subst hjournal
    have hend : toldInDispatch plan.number ([.dispatchEnded plan.number] ++ added) =
        toldInDispatch plan.number added := toldInDispatch_append (by simp)
    rw [hnone left hleft, List.map_nil, List.append_nil] at htold
    exact .finished (List.cons_append).symm List.mem_cons_self (hend.trans htold)
  | @finished added hjournal hend hall =>
    subst hjournal
    have hpast : toldInDispatch plan.number ([.dispatchEnded plan.number] ++ added) =
        toldInDispatch plan.number added := toldInDispatch_of_ended hend
    exact .finished (List.cons_append).symm (List.mem_cons_of_mem _ hend) (hpast.trans hall)

/-- The next listener is told. -/
theorem Plan.Follows.tells {listener : Listener} {left : List Listener}
    (h : plan.Follows remains journal)
    (hnext : ∀ rest, remains rest → rest = listener :: left) (hleft : others left)
    (callback : Callback) :
    plan.Follows others (.called callback :: .told plan.number plan.event listener :: journal) := by
  cases h with
  | @underway added rest hrest hjournal hopen htold =>
    subst hjournal
    rw [hnext rest hrest] at htold
    refine .underway hleft (List.append_assoc [_, _] added plan.base).symm ?_ ?_
    · simpa using hopen
    · show toldInDispatch plan.number (.called callback :: .told _ _ _ :: added) ++ _ = _
      rw [toldInDispatch_told hopen, ← htold, List.append_assoc]
      rfl
  | @finished added hjournal hend hall =>
    subst hjournal
    have hpast : toldInDispatch plan.number
        ([.called callback, .told plan.number plan.event listener] ++ added) =
          toldInDispatch plan.number added := toldInDispatch_of_ended hend
    exact .finished (List.append_assoc [_, _] added plan.base).symm
      (List.mem_append_right _ hend) (hpast.trans hall)

/-- A step of the sweep follows the plan. -/
theorem Plan.Follows.step (h : plan.Follows (plan.Remains engine stage) engine.journal)
    (hstep : stage.Step engine next after) :
    plan.Follows (plan.Remains after next) after.journal := by
  -- where no one remains to be told of the planned event, its dispatch has ended
  have hpast : (∀ left, ¬ plan.Remains engine stage left) →
      plan.Follows (plan.Remains after next) after.journal := by
    intro hnone
    obtain ⟨added, -, hjournal⟩ := hstep.adds
    rw [hjournal]
    exact h.past hnone _ added
  cases hstep with
  | unslotted hslot =>
    apply h.mono
    intro left hleft
    cases hleft with
    | opening hplanned => exact .listing hplanned
  | lists =>
    apply h.mono
    intro left hleft
    cases hleft with
    | listing hplanned => exact .telling hplanned
  | @closes announcement engine =>
    by_cases hplanned : plan.Announces announcement
    · show plan.Follows _ (.dispatchEnded announcement.number :: engine.journal)
      rw [hplanned.1]
      apply h.ends
      intro left hleft
      cases hleft
      rfl
    · apply hpast
      intro left hleft
      cases hleft with
      | telling hother => exact hplanned hother
  | _ =>
    apply hpast
    intro left hleft
    cases hleft

section Moves

variable {turn : Turn} {listener : Listener} {waiting now rest : List Suspension}
  {move : Move Request (Except Fault Unit)} {event : Event} {answer : Answer}

/-- A call of a listener follows the plan. -/
theorem Plan.Follows.calls (h : plan.Follows (plan.Remains engine stage) engine.journal)
    (hcalls : stage.Calls engine turn listener) (hone : turns waiting = [turn]) :
    plan.Follows (plan.Waits waiting) (engine.noteTurn turn.announcement listener).journal := by
  have hpast : (∀ left, ¬ plan.Remains engine stage left) →
      plan.Follows (plan.Waits waiting) (engine.noteTurn turn.announcement listener).journal := by
    intro hnone
    exact h.past hnone _ [.called _, .told _ _ _]
  cases hcalls with
  | slot hslot =>
    apply hpast
    intro left hleft
    cases hleft with
    | opening hplanned hempty => cases hslot.symm.trans hempty
  | @listed announcement engine listener left =>
    by_cases hplanned : plan.Announces announcement
    · show plan.Follows _ (.called _ :: .told announcement.number announcement.event listener ::
        engine.journal)
      rw [hplanned.1, hplanned.2]
      refine h.tells ?_ ⟨announcement, hplanned, hone⟩ _
      intro left hleft
      cases hleft
      rfl
    · apply hpast
      intro left hleft
      cases hleft with
      | telling hother => exact hplanned hother

/-- A sweep that begins, or goes on, follows the plan. -/
theorem Plan.Follows.sweeps (h : plan.Follows (plan.Waits waiting) engine.journal)
    (hhost : HostStep move waiting engine (.sweeps stage answer rest) after)
    (hnone : turns rest = []) : plan.Follows (plan.Remains after stage) after.journal := by
  cases hhost with
  | @beginsSweep request reason answer waiting engine entry hprompts hfree =>
    have hidle : ∀ left, ¬ plan.Waits waiting left := by
      rintro left ⟨announcement, -, hone⟩
      rw [hnone] at hone
      cases hone
    obtain ⟨added, -, hjournal⟩ := (Plain.of_prompts hprompts).journal
    show plan.Follows _ (.sweepBegan reason :: entry.journal)
    rw [hjournal]
    exact h.past hidle _ (.sweepBegan reason :: added)
  | hears =>
    refine h.adds ?_ (Quiet.of_plain (.hear _ _ engine)).journal
    rintro left ⟨announcement, hplanned, hone⟩
    obtain ⟨rfl, -⟩ := List.cons.inj hone
    exact .telling hplanned

/-- At every stop of a sweep the plan is followed. -/
theorem Plan.Follows.arrives (h : plan.Follows (plan.Remains engine stage) engine.journal)
    (hfits : stage.Fits engine) (hfiled : engine.IsFiled) (hnone : turns rest = [])
    (harrives : Arrives (.sweeps stage answer rest) engine event now after) :
    plan.Follows (plan.Waits now) after.journal := by
  refine harrives.keeps (fun stage last => plan.Follows (plan.Remains last stage) last.journal)
    (fun now last => plan.Follows (plan.Waits now) last.journal) ?_ ?_ ?_ hfits hfiled h
  · exact fun _ _ hstep hfollows => hfollows.step hstep
  · intro outcome last _ hfollows
    refine hfollows.past ?_ _ [.sweepEnded]
    intro left hleft
    cases hleft
  · intro stop turn listener last _ hcalls hfollows
    exact hfollows.calls hcalls (turns_telling hnone turn answer)

/-- A move follows the plan. -/
theorem Plan.Follows.leads (h : plan.Follows (plan.Waits waiting) engine.journal)
    (hfiled : engine.IsFiled) (hpoised : Poised waiting engine)
    (hleads : Leads move waiting engine event now after) :
    plan.Follows (plan.Waits now) after.journal := by
  obtain ⟨outset, middle, hhost, harrives⟩ := hleads
  cases outset with
  | rests event rest =>
    cases harrives
    refine h.adds ?_ (Quiet.of_hostStep hhost).journal
    rintro left ⟨announcement, hplanned, hone⟩
    exact ⟨announcement, hplanned, hhost.turns_eq.trans hone⟩
  | sweeps stage answer rest =>
    obtain ⟨hnone, hfits⟩ := hhost.fits hpoised
    exact (h.sweeps hhost hnone).arrives hfits (hfiled.hostStep hhost) hnone harrives

end Moves

/-- Since the earlier journal the listeners of the list have been told of the event in order: the
first ones, and all of them if the dispatch has ended, as it has when no callback waits. -/
def ToldInOrder (number : Nat) (event : ChangeEvent) (expected : List Listener) (base : Journal)
    (session : EngineSession) : Prop :=
  ∃ added, session.state.journal = added ++ base ∧
    toldInDispatch number added <+: expected.map (event, ·) ∧
      (.dispatchEnded number ∈ added ∨ session.waiting = [] →
        toldInDispatch number added = expected.map (event, ·))

/-- A dispatch that follows its plan tells the listeners in order. -/
theorem Plan.Follows.toldInOrder {session : EngineSession} {waiting : List Suspension}
    (h : plan.Follows (plan.Waits waiting) session.state.journal) (hstands : Stands session waiting) :
    ToldInOrder plan.number plan.event plan.expected plan.base session := by
  cases h with
  | @underway added left hwaits hjournal hopen htold =>
    refine ⟨added, hjournal, ?_, ?_⟩
    · rw [← htold]
      exact List.prefix_append _ _
    · rintro (hended | hidle)
      · exact absurd hended hopen
      · obtain ⟨announcement, -, hone⟩ := hwaits
        rw [hstands.waits, List.map_eq_nil_iff] at hidle
        rw [hidle] at hone
        cases hone
  | finished hjournal hended htold =>
    exact ⟨_, hjournal, htold ▸ List.prefix_refl _, fun _ => htold⟩

/-- Whatever moves follow, the listeners of the list are told of the event in order, from the
earlier journal on. -/
def TellsFrom (number : Nat) (event : ChangeEvent) (expected : List Listener) (base : Journal)
    (session : EngineSession) : Prop :=
  ∀ later, ToldInOrder number event expected base (session.run perform later)

/-- A session that follows the plan goes on so. -/
theorem Stands.tellsFrom {session : EngineSession} {waiting : List Suspension}
    (h : Stands session waiting) (hfollows : plan.Follows (plan.Waits waiting) session.state.journal) :
    TellsFrom plan.number plan.event plan.expected plan.base session := by
  intro later
  obtain ⟨now, hlast, hstill⟩ :=
    h.run (fun waiting engine => plan.Follows (plan.Waits waiting) engine.journal)
      (fun hfiled hpoised hleads hfollows => hfollows.leads hfiled hpoised hleads) hfollows later
  exact hstill.toldInOrder hlast

/-! ## The beginning of a dispatch -/

/-- The text of a handle. -/
def media? (engine : Engine) (number : Nat) : Option Text := (engine.handle? number).map (·.media)

/-- No step of a sweep changes the text of a handle. -/
theorem Stage.Step.media?_eq (h : stage.Step engine next after) (number : Nat) :
    after.media? number = engine.media? number := by
  cases h with
  | @changes tour changed rest engine handle query isMatch hhandle hquery hattached hanswer hchange =>
    show ((engine.changeHandle changed _).handle? number).map _ = _
    rw [handle?_changeHandle, media?]
    split
    · rw [Option.map_map]
      rfl
    · rfl
  | _ => rfl

variable {number : Nat} {isMatch : Bool} {older : Journal}

/-- An entry that is not among those added was there before. -/
theorem suffix_of_not_mem {entry : Entry} {added : Journal} (hnone : entry ∉ added)
    (h : entry :: older <:+ added ++ journal) : entry :: older <:+ journal := by
  induction added with
  | nil => exact h
  | cons first added ih =>
    rw [List.mem_cons, not_or] at hnone
    rcases List.suffix_cons_iff.1 h with hsame | hlater
    · exact absurd (List.cons.inj hsame).1 hnone.1
    · exact ih hnone.2 hlater

/-- A dispatch begins with a change of an answer. -/
theorem Stage.Step.began (h : stage.Step engine next after)
    (hbegan : .dispatchBegan number isMatch :: older <:+ after.journal) :
    .dispatchBegan number isMatch :: older <:+ engine.journal ∨
      ∃ tour rest handle, engine.handle? number = some handle ∧
        next = .opening ⟨tour, rest, number, ⟨isMatch, handle.media⟩⟩ ∧
          after = engine.changeAnswer number isMatch ∧
            after.journal = .dispatchBegan number isMatch :: older := by
  have hold : ∀ added : Journal, after.journal = added ++ engine.journal →
      .dispatchBegan number isMatch ∉ added →
        .dispatchBegan number isMatch :: older <:+ engine.journal := by
    intro added hjournal hnone
    rw [hjournal] at hbegan
    exact suffix_of_not_mem hnone hbegan
  cases h with
  | @unreadable round engine fault hsize =>
    exact .inl (hold [.record (sizeFailure fault), .passBegan] rfl (by simp))
  | misread hsize hfault => exact .inl (hold [.passBegan] rfl (by simp))
  | @reads round engine width height hsize =>
    refine .inl (hold ((engine.hostRecords.map .record).reverse ++ [.passBegan]) ?_ (by simp))
    rw [List.append_assoc]
    rfl
  | @changes tour changed rest engine handle query answer hhandle hquery hattached hanswer hchange =>
    rcases List.suffix_cons_iff.1 hbegan with hsame | hlater
    · obtain ⟨hentry, hrest⟩ := List.cons.inj hsame
      cases hentry
      exact .inr ⟨tour, rest, handle, hhandle, rfl, rfl, hsame.symm⟩
    · exact .inl hlater
  | closes => exact .inl (hold [.dispatchEnded _] rfl (by simp))
  | givesUp hrequest hallowed => exact .inl (hold [.record _] rfl (by simp))
  | _ => exact .inl hbegan

/-- A dispatch that began with an entry of the journal: it follows its plan, or is about to call the
listener in the slot. -/
inductive Flips (number : Nat) (isMatch : Bool) (base : Journal) (stage : Stage) (engine : Engine) :
    Prop where
  | told {media : Text} (hmedia : engine.media? number = some media)
      (hslot : engine.slot number = none)
      (hfollows : Plan.Follows ⟨number, ⟨isMatch, media⟩, engine.listeners number, base⟩
        (Plan.Remains ⟨number, ⟨isMatch, media⟩, engine.listeners number, base⟩ engine stage)
        engine.journal)
  | calls {tour : Tour} {rest : List Nat} {media : Text} {listener : Listener}
      (hmedia : engine.media? number = some media)
      (hslot : engine.slot number = some listener)
      (hstage : stage = .opening ⟨tour, rest, number, ⟨isMatch, media⟩⟩)
      (hjournal : engine.journal = base)

/-- A handle that has flipped goes on to its dispatch at every step of the sweep. -/
theorem Flips.step {base : Journal} (h : Flips number isMatch base stage engine)
    (hstep : stage.Step engine next after) : Flips number isMatch base next after := by
  have hlisteners := hstep.listeners_eq number
  cases h with
  | told hmedia hslot hfollows =>
    refine .told ((hstep.media?_eq number).trans hmedia) ((hstep.slot_eq number).trans hslot) ?_
    rw [hlisteners]
    exact hfollows.step hstep
  | calls hmedia hslot hstage hjournal =>
    subst hstage
    cases hstep with
    | unslotted hempty => cases hslot.symm.trans hempty

/-- What a sweep has done of a dispatch that it began when it comes to a stop. -/
inductive Flipped (number : Nat) (isMatch : Bool) (base : Journal) (now : List Suspension)
    (engine : Engine) : Prop where
  | told {media : Text} (hmedia : engine.media? number = some media)
      (hslot : engine.slot number = none)
      (hfollows : Plan.Follows ⟨number, ⟨isMatch, media⟩, engine.listeners number, base⟩
        (Plan.Waits ⟨number, ⟨isMatch, media⟩, engine.listeners number, base⟩ now) engine.journal)
  | calls {tour : Tour} {rest : List Nat} {media : Text} {listener : Listener} {answer : Answer}
      {waiting : List Suspension} (hmedia : engine.media? number = some media)
      (hslot : engine.slot number = some listener)
      (hwaits : now = .telling (.slot ⟨tour, rest, number, ⟨isMatch, media⟩⟩) answer :: waiting)
      (hjournal : engine.journal = .called (callbackFor number ⟨isMatch, media⟩ listener) ::
        .told number ⟨isMatch, media⟩ listener :: base)

/-- The step that changes the answer of a handle begins its dispatch. -/
theorem flips_changes {tour : Tour} {rest : List Nat} {handle : Handle} {base : Journal}
    (hhandle : engine.handle? number = some handle)
    (hjournal : (engine.changeAnswer number isMatch).journal = base) :
    Flips number isMatch base (.opening ⟨tour, rest, number, ⟨isMatch, handle.media⟩⟩)
      (engine.changeAnswer number isMatch) := by
  have hmedia : (engine.changeAnswer number isMatch).media? number = some handle.media := by
    show ((engine.changeHandle number _).handle? number).map _ = _
    rw [handle?_changeHandle, if_pos rfl, hhandle]
    rfl
  cases hslot : (engine.changeAnswer number isMatch).slot number with
  | none =>
    have hstart : (engine.changeAnswer number isMatch).journal = [] ++ base := hjournal
    exact .told hmedia hslot (.underway (.opening ⟨rfl, rfl⟩ hslot) hstart (by simp) rfl)
  | some listener => exact .calls hmedia hslot rfl hjournal

variable {waiting now rest : List Suspension} {move : Move Request (Except Fault Unit)}
  {event : Event} {answer : Answer}

/-- A dispatch that begins between two stops follows its plan at the second, or has called the
listener in the slot. -/
theorem Arrives.flipped {base : Journal} (hbase : base = .dispatchBegan number isMatch :: older)
    (hnew : ¬ base <:+ engine.journal) (hfits : stage.Fits engine) (hfiled : engine.IsFiled)
    (hnone : turns rest = [])
    (harrives : Arrives (.sweeps stage answer rest) engine event now after)
    (hbegan : base <:+ after.journal) : Flipped number isMatch base now after := by
  revert hbegan
  refine harrives.keeps (fun stage last => base <:+ last.journal → Flips number isMatch base stage last)
    (fun now last => base <:+ last.journal → Flipped number isMatch base now last)
    ?_ ?_ ?_ hfits hfiled fun hbegan => absurd hbegan hnew
  · intro stage engine next after _ _ hstep hflips hbegan
    rw [hbase] at hbegan
    rcases hstep.began hbegan with hold | ⟨tour, rest, handle, hhandle, rfl, rfl, hjournal⟩
    · exact (hflips (hbase ▸ hold)).step hstep
    · exact flips_changes hhandle (hjournal.trans hbase.symm)
  · intro outcome last _ hflips hbegan
    have hlast : base <:+ last.journal := by
      rw [hbase] at hbegan ⊢
      have hnone : Entry.dispatchBegan number isMatch ∉ [Entry.sweepEnded] := by simp
      exact suffix_of_not_mem hnone hbegan
    cases hflips hlast with
    | told hmedia hslot hfollows =>
      refine .told hmedia hslot (hfollows.past ?_ _ [.sweepEnded])
      intro left hleft
      cases hleft
    | calls hmedia hslot hstage hjournal => cases hstage
  · intro stop turn listener last _ hcalls hflips hbegan
    have hlast : base <:+ last.journal := by
      rw [hbase] at hbegan ⊢
      have hnone : Entry.dispatchBegan number isMatch ∉
          [Entry.called (turn.announcement.callback listener),
            Entry.told turn.announcement.number turn.announcement.event listener] := by simp
      exact suffix_of_not_mem hnone hbegan
    have hone := turns_telling hnone turn answer
    -- either the sweep is in this dispatch or past it, or it stops where the dispatch begins
    cases hflips hlast with
    | told hmedia hslot hfollows => exact .told hmedia hslot (hfollows.calls hcalls hone)
    | calls hmedia hslot hstage hjournal =>
      subst hstage
      cases hcalls with
      | slot hcalled =>
        cases hslot.symm.trans hcalled
        exact .calls hmedia hslot rfl (congrArg _ (congrArg _ hjournal))

/-- No dispatch begins before a sweep goes on. -/
theorem HostStep.began {outset : Outset} (hhost : HostStep move waiting engine outset after)
    (hbegan : .dispatchBegan number isMatch :: older <:+ after.journal) :
    .dispatchBegan number isMatch :: older <:+ engine.journal := by
  have hquiet : Quiet engine after → .dispatchBegan number isMatch :: older <:+ engine.journal := by
    intro hquiet
    obtain ⟨added, hminor, hjournal⟩ := hquiet.journal
    have hnone : .dispatchBegan number isMatch ∉ added := fun hmember => hminor _ hmember
    rw [hjournal] at hbegan
    exact suffix_of_not_mem hnone hbegan
  cases outset with
  | rests event rest => exact hquiet (.of_hostStep hhost)
  | sweeps stage answer rest =>
    cases hhost with
    | @beginsSweep request reason answer waiting engine entry hprompts hfree =>
      obtain ⟨added, hplain, hjournal⟩ := (Plain.of_prompts hprompts).journal
      have hnone : .dispatchBegan number isMatch ∉ .sweepBegan reason :: added := by
        rintro (_ | ⟨_, hmember⟩)
        exact hplain _ hmember
      have hlater : (entry.beginSweep reason).journal =
          (.sweepBegan reason :: added) ++ engine.journal := congrArg _ hjournal
      rw [hlater] at hbegan
      exact suffix_of_not_mem hnone hbegan
    | hears => exact hquiet (.of_plain (.hear _ _ engine))

/-- A dispatch that begins with a move. -/
theorem Leads.flipped (hleads : Leads move waiting engine event now after)
    (hfiled : engine.IsFiled) (hpoised : Poised waiting engine)
    (hnew : ¬ .dispatchBegan number isMatch :: older <:+ engine.journal)
    (hbegan : .dispatchBegan number isMatch :: older <:+ after.journal) :
    Flipped number isMatch (.dispatchBegan number isMatch :: older) now after := by
  obtain ⟨outset, middle, hhost, harrives⟩ := hleads
  cases outset with
  | rests event rest =>
    cases harrives
    exact absurd (hhost.began hbegan) hnew
  | sweeps stage answer rest =>
    obtain ⟨hnone, hfits⟩ := hhost.fits hpoised
    exact harrives.flipped rfl (fun hold => hnew (hhost.began hold)) hfits (hfiled.hostStep hhost)
      hnone hbegan

/-! ## While a callback waits -/

/-- The moves are made while so many callbacks wait: only those that come later are answered, and
none of these waits in the end. -/
def Within (depth : Nat) (session : EngineSession) : List (Move Request (Except Fault Unit)) → Prop
  | [] => session.waiting.length = depth
  | move :: moves =>
    ((∃ reply, move = .answer reply) → depth < session.waiting.length) ∧
      Within depth (session.step perform move) moves

/-- A request leaves waiting what waits, and an answer all but the last. -/
theorem Leads.waiting_cases (hleads : Leads move waiting engine event now after) :
    (∃ pushed, now = pushed ++ waiting) ∨
      ∃ reply top rest pushed, move = .answer reply ∧ waiting = top :: rest ∧ now = pushed ++ rest := by
  obtain ⟨outset, middle, hhost, harrives⟩ := hleads
  have hpushed : ∀ {rest : List Suspension}, (∃ event, outset = .rests event rest) ∨
      (∃ stage answer, outset = .sweeps stage answer rest) → ∃ pushed, now = pushed ++ rest := by
    rintro rest (⟨event, rfl⟩ | ⟨stage, answer, rfl⟩)
    · cases harrives
      exact ⟨[], rfl⟩
    · cases harrives with
      | ends hreaches => exact ⟨[], rfl⟩
      | calls hreaches hcalls => exact ⟨[_], rfl⟩
  cases hhost with
  | binds hasks =>
    obtain ⟨pushed, hnow⟩ := hpushed (.inl ⟨_, rfl⟩)
    exact .inl ⟨pushed ++ [_], by rw [hnow, List.append_assoc]; rfl⟩
  | refuses hasks hlevel =>
    obtain ⟨pushed, hnow⟩ := hpushed (.inl ⟨_, rfl⟩)
    exact .inl ⟨pushed ++ [_], by rw [hnow, List.append_assoc]; rfl⟩
  | beginsSweep hprompts hfree => exact .inl (hpushed (.inr ⟨_, _, rfl⟩))
  | hears =>
    obtain ⟨pushed, hnow⟩ := hpushed (.inr ⟨_, _, rfl⟩)
    exact .inr ⟨_, _, _, pushed, rfl, rfl, hnow⟩
  | joins =>
    obtain ⟨pushed, hnow⟩ := hpushed (.inl ⟨_, rfl⟩)
    exact .inr ⟨_, _, _, pushed, rfl, rfl, hnow⟩
  | drops =>
    obtain ⟨pushed, hnow⟩ := hpushed (.inl ⟨_, rfl⟩)
    exact .inr ⟨_, _, _, pushed, rfl, rfl, hnow⟩
  | leaves =>
    obtain ⟨pushed, hnow⟩ := hpushed (.inl ⟨_, rfl⟩)
    exact .inr ⟨_, _, _, pushed, rfl, rfl, hnow⟩
  | _ => exact .inl (hpushed (.inl ⟨_, rfl⟩))

/-- As many operations wait in a session as are listed. -/
theorem Stands.length_waiting {session : EngineSession} (h : Stands session waiting) :
    session.waiting.length = waiting.length := by
  rw [h.waits, List.length_map]

/-- While a suspended dispatch waits below others, no sweep begins or goes on. -/
theorem Leads.adds_above {above : List Suspension}
    (hleads : Leads move (above ++ waiting) engine event now after)
    (hpoised : Poised (above ++ waiting) engine) (hturn : turns waiting ≠ [])
    (hdeep : (∃ reply, move = .answer reply) → above ≠ []) :
    Adds Entry.IsMinor engine.journal after.journal := by
  obtain ⟨outset, middle, hhost, harrives⟩ := hleads
  have hbelow : ∀ above, turns (above ++ waiting) ≠ [] := by
    intro above hnone
    rw [turns, List.filterMap_append, List.append_eq_nil_iff] at hnone
    exact hturn hnone.2
  cases outset with
  | rests event rest =>
    cases harrives
    exact (Quiet.of_hostStep hhost).journal
  | sweeps stage answer rest =>
    obtain ⟨hnone, -⟩ := hhost.fits hpoised
    generalize hall : above ++ waiting = all at hhost
    cases hhost with
    | beginsSweep hprompts hfree =>
      rw [← hall] at hnone
      exact absurd hnone (hbelow above)
    | hears =>
      cases above with
      | nil => exact absurd rfl (hdeep ⟨_, rfl⟩)
      | cons top above =>
        obtain ⟨-, rfl⟩ := List.cons.inj hall
        exact absurd hnone (hbelow above)

/-- While some callbacks wait, the operations that wait for their replies stay the same. If a
dispatch is among them, it does not go on, and no other begins. -/
theorem Stands.within {session : EngineSession} {above : List Suspension}
    {moves : List (Move Request (Except Fault Unit))} (h : Stands session (above ++ waiting))
    (hwithin : Within waiting.length session moves) :
    Stands (session.run perform moves) waiting ∧
      (turns waiting ≠ [] →
        Adds Entry.IsMinor session.state.journal (session.run perform moves).state.journal) := by
  induction moves generalizing session above with
  | nil =>
    have hlength : (above ++ waiting).length = waiting.length := h.length_waiting.symm.trans hwithin
    have hnone : above = [] := by simpa using hlength
    subst hnone
    exact ⟨h, fun _ => Adds.refl _ _⟩
  | cons move moves ih =>
    obtain ⟨hdeep, hrest⟩ := hwithin
    rw [h.length_waiting, List.length_append, Nat.lt_add_left_iff_pos, List.length_pos_iff] at hdeep
    show Stands ((session.step perform move).run perform moves) waiting ∧ _
    rcases h.step move with ⟨-, -, hsame⟩ | ⟨event, now, hleads, hstands, -⟩
    · have hrun : session.run perform (move :: moves) = session.run perform moves := by
        rw [Session.run, List.foldl_cons, hsame]
        rfl
      rw [hsame] at hrest ⊢
      rw [hrun]
      exact ih h hrest
    -- what a move pushes or pops is above the operations that have to stay
    · have hstep : ∃ above, Stands (session.step perform move) (above ++ waiting) := by
        rcases hleads.waiting_cases with ⟨pushed, rfl⟩ | ⟨reply, top, rest, pushed, rfl, hwaits, rfl⟩
        · exact ⟨pushed ++ above, by rwa [List.append_assoc]⟩
        · cases above with
          | nil => exact absurd rfl (hdeep ⟨reply, rfl⟩)
          | cons first above =>
            obtain ⟨-, rfl⟩ := List.cons.inj hwaits
            exact ⟨pushed ++ above, by rwa [List.append_assoc]⟩
      obtain ⟨above, hstep⟩ := hstep
      obtain ⟨hlast, hquiet⟩ := ih hstep hrest
      refine ⟨hlast, fun hturn => ?_⟩
      exact (hleads.adds_above h.poised hturn hdeep).trans (hquiet hturn)

/-! ## Flips -/

/-- The listeners of a handle are told of a change of its answer, whatever moves follow. The one in
the slot is called at once, and no one else is told until it returns. Those who listen when it
returns, or at once if the slot is empty, are told in order. -/
def TellsFlip (number : Nat) (isMatch : Bool) (base : Journal) (session : EngineSession) : Prop :=
  ∃ handle, session.state.handle? number = some handle ∧
    match handle.onChange with
    | none => TellsFrom number ⟨isMatch, handle.media⟩ handle.listeners base session
    | some listener =>
      session.state.journal = .called (callbackFor number ⟨isMatch, handle.media⟩ listener) ::
          .told number ⟨isMatch, handle.media⟩ listener :: base ∧
        ∀ moves reply, Within session.waiting.length session moves →
          let returned := session.run perform moves
          Adds Entry.IsMinor session.state.journal returned.state.journal ∧ TellsFrom number ⟨isMatch, handle.media⟩ (returned.state.listeners number)
            returned.state.journal (returned.step perform (.answer reply))

/-- Once the listener in the slot returns, those who listen then are told. -/
theorem Stands.tellsFrom_slot {session : EngineSession} {announcement : Announcement}
    (h : Stands session (.telling (.slot announcement) answer :: waiting))
    (reply : Except Fault Unit) :
    TellsFrom announcement.number announcement.event (session.state.listeners announcement.number)
      session.state.journal (session.step perform (.answer reply)) := by
  let plan : Plan := ⟨announcement.number, announcement.event,
    session.state.listeners announcement.number, session.state.journal⟩
  have hstart : plan.Follows (plan.Remains session.state (.listing announcement))
      session.state.journal :=
    .underway (.listing ⟨rfl, rfl⟩) (List.nil_append _).symm (by simp) rfl
  rcases h.step (.answer reply) with ⟨hnone, -⟩ | ⟨event, now, hleads, hstands, -⟩
  · cases hnone
  · obtain ⟨outset, middle, hhost, harrives⟩ := hleads
    have hfiled := h.filed.hostStep hhost
    cases hhost with
    | hears =>
      obtain ⟨hnone, hfits⟩ := HostStep.fits (.hears) h.poised
      have hlisteners : ∀ number, ((Turn.slot announcement).hear reply session.state).listeners number =
          session.state.listeners number := by
        intro number
        cases reply <;> rfl
      have hheard : plan.Follows
          (plan.Remains ((Turn.slot announcement).hear reply session.state) (.listing announcement))
          ((Turn.slot announcement).hear reply session.state).journal := by
        refine hstart.adds ?_ (Quiet.of_plain (.hear _ _ _)).journal
        intro left hleft
        cases hleft with
        | listing hplanned =>
          rw [← hlisteners]
          exact .listing hplanned
      exact hstands.tellsFrom (hheard.arrives hfits hfiled hnone harrives)

/-- A session in which a dispatch began with the last move goes on to tell the listeners. -/
theorem Flipped.tellsFlip {session : EngineSession} {base : Journal}
    (h : Flipped number isMatch base waiting session.state) (hstands : Stands session waiting) :
    TellsFlip number isMatch base session := by
  cases h with
  | @told media hmedia hslot hfollows =>
    obtain ⟨handle, hhandle, rfl⟩ := Option.map_eq_some_iff.1 hmedia
    refine ⟨handle, hhandle, ?_⟩
    have hempty : handle.onChange = none := by rwa [slot, hhandle] at hslot
    have hlisteners : session.state.listeners number = handle.listeners := by
      rw [listeners, hhandle]
      rfl
    rw [hempty, ← hlisteners]
    exact hstands.tellsFrom hfollows
  | @calls tour rest media listener answer others hmedia hslot hwaits hjournal =>
    obtain ⟨handle, hhandle, rfl⟩ := Option.map_eq_some_iff.1 hmedia
    refine ⟨handle, hhandle, ?_⟩
    have hfull : handle.onChange = some listener := by rwa [slot, hhandle] at hslot
    rw [hfull]
    refine ⟨hjournal, ?_⟩
    intro moves reply hwithin
    subst hwaits
    rw [hstands.length_waiting] at hwithin
    have hall : Stands session ([] ++ .telling (.slot _) answer :: others) := hstands
    obtain ⟨hreturned, hquiet⟩ := hall.within hwithin
    exact ⟨hquiet (List.cons_ne_nil _ _), hreturned.tellsFrom_slot reply⟩

/-- The listeners of every handle whose answer changes with a move are told in order. -/
theorem Stands.flips {session : EngineSession} (h : Stands session waiting)
    (hnew : ¬ .dispatchBegan number isMatch :: older <:+ session.state.journal)
    (hbegan : .dispatchBegan number isMatch :: older <:+
      (session.step perform move).state.journal) :
    TellsFlip number isMatch (.dispatchBegan number isMatch :: older) (session.step perform move) := by
  rcases h.step move with ⟨-, -, hsame⟩ | ⟨event, now, hleads, hstands, -⟩
  · rw [hsame] at hbegan
    exact absurd hbegan hnew
  · exact (hleads.flipped h.filed h.poised hnew hbegan).tellsFlip hstands

end Engine

end Breakpoint
