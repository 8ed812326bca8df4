import Breakpoint.Proofs.Engine.Bearings

/-!
# Sweeps are bounded

Listeners may ask for a further pass again and again. A sweep takes the first pass and as many
further ones as the settings allow, ends whatever its listeners do, and warns of it once if a pass
was still asked for at the last one.
-/

namespace Breakpoint

namespace Journal

/-- The warnings of one part of the library, the last first. -/
def warnings (source : Source) (journal : Journal) : List LogRecord :=
  journal.filterMap fun entry =>
    match entry with
    | .record written =>
      if written.level = .warning ∧ written.source = source then some written else none
    | _ => none

/-- Whether an entry about sweeps and passes is in its place, if a sweep takes at most so many
passes: a sweep begins where none is open, a pass begins in an open sweep that has begun fewer and
in which no dispatch is open, and a sweep ends after a pass. -/
def InSweep (limit : Nat) (entry : Entry) (journal : Journal) : Prop :=
  match entry with
  | .sweepBegan _ => openSweep journal = none
  | .passBegan => openDispatch journal = none ∧
    ∃ reason passes, openSweep journal = some (reason, passes) ∧ passes < limit
  | .sweepEnded => openDispatch journal = none ∧
    ∃ reason passes, openSweep journal = some (reason, passes) ∧ 1 ≤ passes
  | _ => True

/-- Sweeps do not overlap, their passes do not nest, and each of them takes at least one pass and
at most as many as the limit says. -/
def SweepsWithin (limit : Nat) : Journal → Prop
  | [] => True
  | entry :: journal => InSweep limit entry journal ∧ SweepsWithin limit journal

/-- A minor entry is in its place anywhere. -/
theorem inSweep_minor {limit : Nat} {entry : Entry} {journal : Journal} (h : entry.IsMinor) :
    InSweep limit entry journal := by
  cases entry with
  | sweepBegan reason => exact h.elim
  | passBegan => exact h.elim
  | sweepEnded => exact h.elim
  | _ => trivial

/-- Minor entries leave sweeps within their limit. -/
theorem SweepsWithin.adds {limit : Nat} {before after : Journal} (h : SweepsWithin limit before)
    (hadds : Adds Entry.IsMinor before after) : SweepsWithin limit after := by
  obtain ⟨added, hadded, rfl⟩ := hadds
  induction added with
  | nil => exact h
  | cons entry added ih =>
    rw [List.forall_mem_cons] at hadded
    exact ⟨inSweep_minor hadded.1, ih hadded.2⟩

/-- A minor entry is no warning of the engine. -/
theorem warnings_minor {entry : Entry} {journal : Journal} (h : entry.IsMinor) :
    warnings .engine (entry :: journal) = warnings .engine journal := by
  apply List.filterMap_cons_none
  cases entry with
  | record written =>
    apply if_neg
    rintro ⟨hlevel, hsource⟩
    cases (h hlevel).symm.trans hsource
  | _ => rfl

end Journal

namespace Engine

open Journal

/-- The passes that a sweep may take. -/
def passLimit (followUps : Int) : Nat := (1 + max 0 followUps).toNat

/-- What the engine has to warn of when a move ends its sweep: a further pass was asked for at the
last one. No listener is called between the move and the end of that pass, so the wish is the one
before the move. -/
def dueWarnings (limit : Nat) (before after : Engine) : List LogRecord :=
  match openSweep before.journal with
  | some (reason, passes) =>
    if passes = limit ∧ before.followUpRequested = true ∧ after.isSweeping = false then
      [followUpWarning reason passes]
    else []
  | none => []

variable {engine after : Engine} {followUps : Int}

/-- The limit of an engine is a number, and its sweeps have kept to it. -/
structure IsBounded (followUps : Int) (engine : Engine) : Prop where
  limit : engine.followUps = .atMost followUps
  within : SweepsWithin (passLimit followUps) engine.journal

/-- A bounded engine stays so through a quiet change. -/
theorem IsBounded.quiet (h : IsBounded followUps engine) (hquiet : Quiet engine after) :
    IsBounded followUps after :=
  ⟨hquiet.limit.trans h.limit, h.within.adds hquiet.journal⟩

/-- How many passes are allowed still. -/
theorem Round.Holds.allowed_eq {round : Round} {begun : Nat} {dispatch : Option Nat}
    (h : round.Holds begun dispatch engine) (hlimit : engine.followUps = .atMost followUps) :
    ∃ allowed, round.allowed = some allowed ∧ round.before + allowed + 1 = passLimit followUps := by
  have hsum := h.limit
  rw [hlimit, furtherPasses, Option.map_eq_some_iff] at hsum
  obtain ⟨allowed, hallowed, hsum⟩ := hsum
  refine ⟨allowed, hallowed, ?_⟩
  rw [passLimit]
  omega

/-- A pass that begins is one of those allowed. -/
theorem IsBounded.beginPass {round : Round} (h : IsBounded followUps engine)
    (hholds : round.Holds round.before none engine) : IsBounded followUps engine.beginPass := by
  obtain ⟨allowed, -, hsum⟩ := hholds.allowed_eq h.limit
  refine ⟨h.limit, ⟨hholds.dispatch, round.reason, round.before, hholds.passes, ?_⟩, h.within⟩
  omega

/-- A step keeps to the limit. -/
theorem IsBounded.step {stage next : Stage} (h : IsBounded followUps engine)
    (hfits : stage.Fits engine) (hstep : stage.Step engine next after) :
    IsBounded followUps after := by
  cases hstep with
  | unreadable hsize =>
    exact (h.beginPass hfits).quiet (.note _ (by simp [Entry.IsMinor, sizeFailure]))
  | misread hsize hfault => exact h.beginPass hfits
  | reads hsize =>
    exact (h.beginPass hfits).quiet (.of_plain (.noteRecords _ fun _ => level_hostRecords))
  | changes hhandle hquery hattached hanswer hchange => exact ⟨h.limit, trivial, h.within⟩
  | closes => exact ⟨h.limit, trivial, h.within⟩
  | givesUp hrequest hallowed => exact ⟨h.limit, trivial, h.within⟩
  | _ => exact h

section Moves

variable {move : Move Request (Except Fault Unit)} {waiting now : List Suspension} {event : Event}

/-- A sweep that begins, or goes on, keeps to the limit. -/
theorem IsBounded.sweeps {stage : Stage} {answer : Answer} (h : IsBounded followUps engine)
    (hpoised : Poised waiting engine)
    (hhost : HostStep move waiting engine (.sweeps stage answer now) after) :
    IsBounded followUps after := by
  cases hhost with
  | beginsSweep hprompts hfree =>
    have hprompted := Quiet.of_plain (.of_prompts hprompts)
    have hentry := h.quiet hprompted
    refine ⟨hentry.limit, ?_, hentry.within⟩
    cases hpoised with
    | free hnone hidle => exact (hidle.quiet hprompted).passes
    | suspended hone hfits => cases hfree.symm.trans (Turn.sweeping hfits)
  | hears => exact h.quiet (.of_plain (.hear _ _ engine))

/-- A move keeps to the limit. -/
theorem IsBounded.leads (h : IsBounded followUps engine) (hfiled : engine.IsFiled)
    (hpoised : Poised waiting engine) (hleads : Leads move waiting engine event now after) :
    IsBounded followUps after := by
  refine hleads.keeps (fun _ _ => IsBounded followUps) (fun _ => IsBounded followUps)
    ?_ ?_ ?_ ?_ ?_ hfiled hpoised
  · exact fun hhost => h.quiet (.of_hostStep hhost)
  · exact fun hhost => h.sweeps hpoised hhost
  · exact fun hfits _ hstep hbounded => hbounded.step hfits hstep
  · intro rest outcome engine _ hclosing hbounded
    obtain ⟨reason, begun, hpasses⟩ := hclosing.passes
    exact ⟨hbounded.limit, ⟨hclosing.dispatch, reason, begun + 1, hpasses, by omega⟩,
      hbounded.within⟩
  · exact fun _ _ _ hbounded => ⟨hbounded.limit, trivial, trivial, hbounded.within⟩

end Moves

/-! ## Warnings -/

/-- The engine owes a warning: a further pass is asked for at the last one. -/
structure Owes (limit : Nat) (engine : Engine) (reason : SweepReason) : Prop where
  passes : openSweep engine.journal = some (reason, limit)
  request : engine.followUpRequested = true

/-- Nothing was warned of since some moment: the pass and the wish for another are those of that
moment, or no further pass is asked for and no warning was owed. -/
structure Unwarned (limit : Nat) (origin engine : Engine) : Prop where
  same : warnings .engine engine.journal = warnings .engine origin.journal
  owes : openSweep engine.journal = openSweep origin.journal ∧
      engine.followUpRequested = origin.followUpRequested ∨
    engine.followUpRequested = false ∧ ∀ reason, ¬ Owes limit origin reason

/-- The warning that was owed at some moment was written since, and nothing else was warned of. -/
inductive Warned (limit : Nat) (origin engine : Engine) : Prop where
  | none (hsame : warnings .engine engine.journal = warnings .engine origin.journal)
      (hnot : ∀ reason, ¬ Owes limit origin reason)
  | once {reason : SweepReason} (howes : Owes limit origin reason)
      (hwarns : warnings .engine engine.journal =
        followUpWarning reason limit :: warnings .engine origin.journal)

/-- What is known of the warnings at a stage. -/
def Stage.Warns (limit : Nat) (origin : Engine) : Stage → Engine → Prop
  | .closing _, engine => Warned limit origin engine
  | _, engine => Unwarned limit origin engine

/-- No warning is due while a sweep goes on. -/
theorem dueWarnings_of_sweeping {limit : Nat} {origin : Engine} (h : after.isSweeping = true) :
    dueWarnings limit origin after = [] := by
  rw [dueWarnings]
  split
  · exact if_neg (by simp [h])
  · rfl

/-- No warning is due where none was owed. -/
theorem dueWarnings_of_not_owes {limit : Nat} {origin : Engine}
    (h : ∀ reason, ¬ Owes limit origin reason) : dueWarnings limit origin after = [] := by
  rw [dueWarnings]
  split
  · next reason passes hpasses =>
    apply if_neg
    rintro ⟨rfl, hrequest, -⟩
    exact h reason ⟨hpasses, hrequest⟩
  · rfl

/-- The warning that was owed is due when the sweep has ended. -/
theorem Owes.dueWarnings_eq {limit : Nat} {origin : Engine} {reason : SweepReason}
    (h : Owes limit origin reason) (hended : after.isSweeping = false) :
    dueWarnings limit origin after = [followUpWarning reason limit] := by
  rw [dueWarnings, h.passes]
  exact if_pos ⟨rfl, h.request, hended⟩

/-- A change that neither warns nor begins a pass nor asks for one. -/
theorem Unwarned.of_same {limit : Nat} {origin : Engine} (h : Unwarned limit origin engine)
    (hsame : warnings .engine after.journal = warnings .engine engine.journal)
    (hpasses : openSweep after.journal = openSweep engine.journal)
    (hrequest : after.followUpRequested = engine.followUpRequested) :
    Unwarned limit origin after := by
  refine ⟨hsame.trans h.same, ?_⟩
  rw [hpasses, hrequest]
  exact h.owes

/-- Where a pass begins, no warning was owed. -/
theorem Unwarned.not_owes {origin : Engine} {round : Round}
    (h : Unwarned (passLimit followUps) origin engine) (hbounded : IsBounded followUps engine)
    (hholds : round.Holds round.before none engine) (reason : SweepReason) :
    ¬ Owes (passLimit followUps) origin reason := by
  rcases h.owes with ⟨hpasses, -⟩ | ⟨-, hnot⟩
  · intro howes
    -- the passes that have begun and those that are still allowed add up to the limit
    obtain ⟨allowed, -, hsum⟩ := hholds.allowed_eq hbounded.limit
    rw [hholds.passes, howes.passes] at hpasses
    obtain ⟨-, hlimit⟩ := Prod.mk.inj (Option.some.inj hpasses)
    omega
  · exact hnot reason

/-- A step warns of what is owed, at the end. -/
theorem Stage.Step.warns {stage next : Stage} {origin : Engine}
    (hbounded : IsBounded followUps engine) (hfits : stage.Fits engine) (hfiled : engine.IsFiled)
    (hstep : stage.Step engine next after)
    (h : stage.Warns (passLimit followUps) origin engine) :
    next.Warns (passLimit followUps) origin after := by
  cases hstep with
  | unreadable hsize =>
    refine ⟨?_, .inr ⟨rfl, h.not_owes hbounded hfits⟩⟩
    rw [← h.same]
    exact warnings_minor (by simp [Entry.IsMinor, sizeFailure])
  | misread hsize hfault => exact .none h.same (h.not_owes hbounded hfits)
  | @reads round engine width height hsize =>
    have hquiet : Quiet engine.beginPass (engine.beginPass.noteRecords engine.hostRecords) :=
      .of_plain (.noteRecords _ fun _ => level_hostRecords)
    refine ⟨?_, .inr ⟨rfl, h.not_owes hbounded hfits⟩⟩
    refine (Adds.keeps (warnings .engine) warnings_minor hquiet.journal).trans ?_
    exact h.same
  | fails hhandle hquery hattached hfault =>
    obtain ⟨isMatch, hanswer⟩ := hfiled.evaluate_isOk hhandle hquery _
    cases hanswer.symm.trans hfault
  | changes hhandle hquery hattached hanswer hchange => exact h.of_same rfl rfl rfl
  | closes => exact h.of_same rfl rfl rfl
  | rests hrequest =>
    refine .none h.same ?_
    intro reason howes
    rcases h.owes with ⟨-, hsame⟩ | ⟨-, hnot⟩
    · cases howes.request.symm.trans (hsame.symm.trans hrequest)
    · exact hnot reason howes
  | stalls hrequest hallowed =>
    obtain ⟨allowed, hsome, -⟩ := hfits.allowed_eq hbounded.limit
    cases hsome.symm.trans hallowed
  | @givesUp round engine hrequest hallowed =>
    obtain ⟨allowed, hsome, hsum⟩ := hfits.allowed_eq hbounded.limit
    cases hsome.symm.trans hallowed
    have hlast : round.before + 1 = passLimit followUps := hsum
    rcases h.owes with ⟨hpasses, hsame⟩ | ⟨hnone, -⟩
    · have howes : Owes (passLimit followUps) origin round.reason := by
        refine ⟨?_, hsame.symm.trans hrequest⟩
        rw [← hpasses, hfits.passes, hlast]
      refine .once howes ?_
      rw [← h.same, hlast]
      rfl
    · cases hnone.symm.trans hrequest
  | _ => exact h

/-- A quiet change writes no warning of the engine. -/
theorem warnings_quiet (h : Quiet engine after) :
    warnings .engine after.journal = warnings .engine engine.journal :=
  Adds.keeps (warnings .engine) warnings_minor h.journal

/-- Nothing was warned of when a sweep begins, or goes on. -/
theorem HostStep.warns {move : Move Request (Except Fault Unit)} {waiting now : List Suspension}
    {stage : Stage} {answer : Answer} {limit : Nat}
    (hhost : HostStep move waiting engine (.sweeps stage answer now) after)
    (hbounded : IsBounded followUps engine) (hpoised : Poised waiting engine) :
    stage.Warns limit engine after := by
  cases hhost with
  | @beginsSweep request reason answer waiting engine entry hprompts hfree =>
    have hquiet : Quiet engine entry := .of_plain (.of_prompts hprompts)
    have hsame : warnings .engine entry.journal = warnings .engine engine.journal :=
      warnings_quiet hquiet
    refine ⟨hsame, .inr ?_⟩
    cases hpoised with
    | free hnone hidle =>
      refine ⟨(hidle.quiet hquiet).request ?_, ?_⟩
      · rw [hquiet.limit, hbounded.limit]
        simp
      · intro reason howes
        cases howes.passes.symm.trans hidle.passes
    | suspended hone hfits => cases hfree.symm.trans (Turn.sweeping hfits)
  | @hears turn answer reply waiting engine =>
    have hquiet : Quiet engine (turn.hear reply engine) := .of_plain (.hear turn reply engine)
    have hrequest : (turn.hear reply engine).followUpRequested = engine.followUpRequested := by
      cases reply <;> rfl
    cases turn <;> exact ⟨warnings_quiet hquiet, .inl ⟨hquiet.openSweep, hrequest⟩⟩

/-- While the host has control, no warning is due. -/
theorem Poised.dueWarnings_eq {waiting : List Suspension} {limit : Nat}
    (h : Poised waiting engine) (hsweeping : after.isSweeping = engine.isSweeping) :
    dueWarnings limit engine after = [] := by
  cases h with
  | free hnone hfree =>
    apply dueWarnings_of_not_owes
    intro reason howes
    cases howes.passes.symm.trans hfree.passes
  | suspended hone hfits =>
    exact dueWarnings_of_sweeping (hsweeping.trans (Turn.sweeping hfits))

/-- A move warns of what is owed, if its sweep ends with it. -/
theorem Leads.warnings_eq {move : Move Request (Except Fault Unit)} {waiting now : List Suspension}
    {event : Event} (hleads : Leads move waiting engine event now after)
    (hbounded : IsBounded followUps engine) (hfiled : engine.IsFiled)
    (hpoised : Poised waiting engine) :
    warnings .engine after.journal =
      dueWarnings (passLimit followUps) engine after ++ warnings .engine engine.journal := by
  refine hleads.keeps
    (fun _ stage last => IsBounded followUps last ∧ stage.Warns (passLimit followUps) engine last)
    (fun _ last => warnings .engine last.journal =
      dueWarnings (passLimit followUps) engine last ++ warnings .engine engine.journal)
    ?_ ?_ ?_ ?_ ?_ hfiled hpoised
  · intro event rest middle hhost
    have hrests := Quiet.of_hostStep hhost
    rw [warnings_quiet hrests, hpoised.dueWarnings_eq hrests.sweeping, List.nil_append]
  · exact fun hhost => ⟨hbounded.sweeps hpoised hhost, hhost.warns hbounded hpoised⟩
  · rintro rest stage engine next after hfits hfiled hstep ⟨hbounded, hwarns⟩
    exact ⟨hbounded.step hfits hstep, hstep.warns hbounded hfits hfiled hwarns⟩
  · rintro rest outcome last - hclosing ⟨-, hwarned⟩
    cases hwarned with
    | none hsame hnot =>
      rw [dueWarnings_of_not_owes hnot]
      exact hsame
    | once howes hwarns =>
      rw [howes.dueWarnings_eq rfl]
      exact hwarns
  · rintro rest answer stop turn listener last - hfits hcalls ⟨-, hwarns⟩
    have hsweeping : (last.noteTurn turn.announcement listener).isSweeping = true :=
      Turn.sweeping (hcalls.fits hfits)
    rw [dueWarnings_of_sweeping hsweeping]
    cases hcalls <;> exact hwarns.same

/-- A sweep is open in the journal while the engine sweeps. -/
theorem Poised.isSweeping_eq {waiting : List Suspension} (h : Poised waiting engine) :
    engine.isSweeping = (openSweep engine.journal).isSome := by
  cases h with
  | free hnone hfree =>
    rw [hfree.idle, hfree.passes]
    rfl
  | @suspended turn hone hfits =>
    cases turn <;>
    · rw [hfits.sweeping, hfits.passes]
      rfl

/-- An engine with a numeric limit keeps to it at every moment of a session. -/
theorem bounded_sessionAfter (options : EngineOptions) (followUps : Int)
    (moves : List (Move Request (Except Fault Unit))) :
    ∃ waiting, Stands (sessionAfter { options with followUps := .atMost followUps } moves) waiting ∧
      IsBounded followUps
        (sessionAfter { options with followUps := .atMost followUps } moves).state := by
  have hnew : IsBounded followUps (create { options with followUps := .atMost followUps }) := by
    have hnothing : SweepsWithin (passLimit followUps) [] := trivial
    exact ⟨rfl, hnothing.adds (adds_create _)⟩
  refine (stands_new _).run (fun _ => IsBounded followUps) ?_ hnew moves
  exact fun hfiled hpoised hleads hbounded => hbounded.leads hfiled hpoised hleads

/-- Whatever the listeners do: sweeps do not overlap, their passes do not nest, and each takes at
least one pass and at most one more than the settings allow. A sweep is open in the journal while
the engine sweeps. When the engine does not sweep no pass is asked for, and it does not while no
operation is under way. A move adds the warning that its sweep owes, if the sweep ends with it, and
no other. -/
theorem sweeps_bounded (options : EngineOptions) (followUps : Int)
    (moves : List (Move Request (Except Fault Unit))) (move : Move Request (Except Fault Unit)) :
    let before := sessionAfter { options with followUps := .atMost followUps } moves
    let after := before.step perform move
    SweepsWithin (passLimit followUps) after.state.journal ∧
      after.state.isSweeping = (openSweep after.state.journal).isSome ∧
      (after.state.isSweeping = false → after.state.followUpRequested = false) ∧
      (after.isIdle = true → after.state.isSweeping = false) ∧
      warnings .engine after.state.journal =
        dueWarnings (passLimit followUps) before.state after.state ++
          warnings .engine before.state.journal := by
  intro before after
  obtain ⟨waiting, hstands, hbounded⟩ := bounded_sessionAfter options followUps moves
  have hafter : ∃ now, Stands after now ∧ IsBounded followUps after.state ∧
      warnings .engine after.state.journal =
        dueWarnings (passLimit followUps) before.state after.state ++
          warnings .engine before.state.journal := by
    rcases hstands.step move with ⟨-, -, hsame⟩ | ⟨event, now, hleads, hnow, -⟩
    · have hsession : after = before := hsame
      rw [hsession, hstands.poised.dueWarnings_eq rfl]
      exact ⟨waiting, hstands, hbounded, rfl⟩
    · exact ⟨now, hnow, hbounded.leads hstands.filed hstands.poised hleads,
        hleads.warnings_eq hbounded hstands.filed hstands.poised⟩
  obtain ⟨now, hnow, hkept, hwarnings⟩ := hafter
  refine ⟨hkept.within, hnow.poised.isSweeping_eq, ?_, ?_, hwarnings⟩
  · intro hidle
    cases hnow.poised with
    | free hnone hfree =>
      apply hfree.request
      rw [hkept.limit]
      simp
    | suspended hone hfits => cases hidle.symm.trans (Turn.sweeping hfits)
  · intro hidle
    have hnothing : now = [] := by
      rw [Session.isIdle, hnow.waits, List.isEmpty_iff, List.map_eq_nil_iff] at hidle
      exact hidle
    cases hnow.poised with
    | free hnone hfree => exact hfree.idle
    | suspended hone hfits =>
      rw [hnothing] at hone
      cases hone

end Engine

end Breakpoint
