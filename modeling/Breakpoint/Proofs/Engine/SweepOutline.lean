import Breakpoint.Engine.Sweep
import Breakpoint.Proofs.Contract

/-!
# Proof outlines of sweeps

An outline gives an assertion for each place of a sweep where the engine can stand: between two
passes, before a handle is visited, before a listener is told. It proves of each single change
that it leads from one assertion to the next. A sweep with such an outline keeps the contract
that the outline is about, whatever its listeners do.

Records of failing calls are written all along, so each assertion has to allow for them.
-/

namespace Breakpoint.Engine

/-- A pass of a sweep: which one it is, and the size and the preferences that it took. -/
structure Pass where
  number : Nat
  size : Extent × Extent
  host : Preferences

/-- The numbers of the handles that are registered, in order. -/
def registered (engine : Engine) : List Nat := engine.registry.entries.map (·.2)

/-- A call may be made from the state, and the assertion holds when the host has answered. -/
def Calls (contract : Contract Engine Callback) (callback : Callback)
    (assertion : Engine → Prop) (engine : Engine) : Prop :=
  contract.Valid engine ∧ contract.Call callback engine ∧
    ∀ after, contract.Valid after → contract.Step engine after → assertion after

/-- One assertion at an end with a result, another one at an end with a fault. -/
def Ends (result fault : Engine → Prop) : Except Fault Unit → Engine → Prop
  | .ok _, engine => result engine
  | .error _, engine => fault engine

/-- The assertion is left alone by the record of a failing call. -/
def AllowsErrors (assertion : Engine → Prop) : Prop :=
  ∀ engine record, record.level = .error → assertion engine →
    assertion (engine.note (.record record))

/-- The assertions of a sweep and what leads from one to the next. The sweep starts where
`entry` holds, takes as many passes as `limit` says, and ends as `post` says. -/
structure SweepOutline (contract : Contract Engine Callback) (reason : SweepReason)
    (limit : FollowUpLimit) (entry : Engine → Prop)
    (post : Except Fault Unit → Engine → Prop) where
  /-- So many passes were made, and another one begins. -/
  between : Nat → Engine → Prop
  /-- The handles of the list are still to be visited. -/
  visiting : Pass → List Nat → Engine → Prop
  /-- The answer of a handle was changed, and the listener in its slot is told next. -/
  opening : Pass → List Nat → Nat → ChangeEvent → Engine → Prop
  /-- The listeners of the list are still to be told. -/
  telling : Pass → List Nat → Nat → ChangeEvent → List Listener → Engine → Prop
  /-- The last of so many passes has ended. -/
  passed : Nat → Engine → Prop
  /-- No pass is to follow. -/
  finished : Engine → Prop
  /-- A fault has ended the sweep early. -/
  broken : Engine → Prop
  visiting_allowsErrors : ∀ {pass rest}, AllowsErrors (visiting pass rest)
  opening_allowsErrors : ∀ {pass rest number event}, AllowsErrors (opening pass rest number event)
  telling_allowsErrors : ∀ {pass rest number event left},
    AllowsErrors (telling pass rest number event left)
  passed_allowsErrors : ∀ {number}, AllowsErrors (passed number)
  joins : ∀ {engine}, entry engine → engine.isSweeping = true → post (.ok ()) engine.requestFollowUp
  begins : ∀ {engine}, entry engine → engine.isSweeping = false →
    engine.followUps = limit ∧ between 0 (engine.beginSweep reason)
  unreadable : ∀ {count engine fault}, between count engine →
    engine.providedSize = .error fault → passed (count + 1) engine.beginPass
  misread : ∀ {count engine size}, between count engine → engine.providedSize = .ok size →
    (∀ width height, size ≠ (.ok width, .ok height)) → broken engine.beginPass
  reads : ∀ {count engine width height}, between count engine →
    engine.providedSize = .ok (.ok width, .ok height) →
      visiting ⟨count + 1, (width, height), engine.preferences⟩ engine.registered engine.beginPass
  skips : ∀ {pass number rest engine}, visiting pass (number :: rest) engine →
    (∀ handle query, engine.handle? number = some handle → handle.query = some query →
      handle.isDetached = false →
        query.evaluate (engine.surroundings pass.size pass.host) = .ok handle.isMatch) →
    visiting pass rest engine
  fails : ∀ {pass number rest engine handle query fault}, visiting pass (number :: rest) engine →
    engine.handle? number = some handle → handle.query = some query →
      query.evaluate (engine.surroundings pass.size pass.host) = .error fault → broken engine
  changes : ∀ {pass number rest engine handle query isMatch},
    visiting pass (number :: rest) engine → engine.handle? number = some handle →
      handle.query = some query → handle.isDetached = false →
        query.evaluate (engine.surroundings pass.size pass.host) = .ok isMatch →
          isMatch ≠ handle.isMatch →
            opening pass rest number ⟨isMatch, handle.media⟩ (engine.changeAnswer number isMatch)
  opens : ∀ {pass rest number event listener handle engine}, opening pass rest number event engine →
    engine.handle? number = some handle → handle.onChange = some listener →
      Calls contract (callbackFor number event listener) (opening pass rest number event)
        (engine.noteTold number event listener)
  lists : ∀ {pass rest number event engine}, opening pass rest number event engine →
    telling pass rest number event ((engine.handle? number).elim [] (·.listeners)) engine
  tells : ∀ {pass rest number event listener left engine},
    telling pass rest number event (listener :: left) engine →
      Calls contract (callbackFor number event listener) (telling pass rest number event left)
        (engine.noteTold number event listener)
  closes : ∀ {pass rest number event engine}, telling pass rest number event [] engine →
    visiting pass rest (engine.note (.dispatchEnded number))
  ends : ∀ {pass engine}, visiting pass [] engine → passed pass.number engine
  rests : ∀ {count engine}, passed count engine → engine.followUpRequested = false →
    finished engine
  follows : ∀ {count engine bound}, passed count engine → engine.followUpRequested = true →
    limit = .atMost bound → count ≤ bound.toNat → between count engine
  givesUp : ∀ {count engine bound}, passed count engine → engine.followUpRequested = true →
    limit = .atMost bound → count = bound.toNat + 1 →
      finished (engine.note (.record (followUpWarning reason count))).dropFollowUp
  stalls : ∀ {count engine}, passed count engine → engine.followUpRequested = true →
    limit = .incomparable → broken engine
  closesFinished : ∀ {engine}, finished engine → post (.ok ()) engine.endSweep
  closesBroken : ∀ {engine} (fault : Fault), broken engine → post (.error fault) engine.endSweep

namespace SweepOutline

open Operation

variable {contract : Contract Engine Callback} {reason : SweepReason} {limit : FollowUpLimit}
  {entry : Engine → Prop} {post : Except Fault Unit → Engine → Prop}

/-- Telling a listener leads to what holds after its call, also when it fails. -/
theorem keeps_tell {assertion : Engine → Prop} (herrors : AllowsErrors assertion) {role : Text}
    {number : Nat} {event : ChangeEvent} {listener : Listener} {engine : Engine}
    (h : Calls contract (callbackFor number event listener) assertion
      (engine.noteTold number event listener)) :
    (tell role number event listener engine).Keeps contract fun outcome after =>
      outcome = .ok () ∧ assertion after := by
  obtain ⟨hvalid, hcall, hafter⟩ := h
  simp only [tell, keeps_bind, keeps_modify, continues_ok, keeps_call]
  refine ⟨hvalid, hcall, ?_⟩
  intro reply after hafterValid hstep
  have hassertion := hafter after hafterValid hstep
  cases reply with
  | ok result => exact ⟨rfl, hassertion⟩
  | error fault => exact ⟨rfl, herrors after _ rfl hassertion⟩

variable (outline : SweepOutline contract reason limit entry post)

/-- Telling the listeners of a list one after the other. -/
theorem keeps_tellAll {pass : Pass} {rest : List Nat} {number : Nat} {event : ChangeEvent}
    {role : Text} {left : List Listener} {engine : Engine}
    (h : outline.telling pass rest number event left engine) :
    (forAll (tell role number event) left engine).Keeps contract fun outcome after =>
      outcome = .ok () ∧ outline.telling pass rest number event [] after := by
  induction left generalizing engine with
  | nil => exact ⟨rfl, h⟩
  | cons listener left ih =>
    rw [forAll, keeps_bind]
    apply (keeps_tell outline.telling_allowsErrors (outline.tells h)).imp
    intro outcome after htold
    obtain ⟨rfl, htelling⟩ := htold
    exact ih htelling

/-- Telling the listeners that are registered leads to where all of them were told. -/
theorem keeps_tellListeners {pass : Pass} {rest : List Nat} {number : Nat} {event : ChangeEvent}
    {engine : Engine} (h : outline.opening pass rest number event engine) :
    (tellListeners number event engine).Keeps contract fun outcome after =>
      outcome = .ok () ∧ outline.telling pass rest number event [] after := by
  have htelling := outline.lists h
  simp only [tellListeners, keeps_bind, keeps_get, continues_ok]
  cases hhandle : engine.handle? number with
  | none =>
    rw [hhandle] at htelling
    exact ⟨rfl, htelling⟩
  | some handle =>
    rw [hhandle] at htelling
    exact outline.keeps_tellAll htelling

/-- A dispatch that starts after a change of the answer tells every listener. -/
theorem keeps_dispatch {pass : Pass} {rest : List Nat} {number : Nat} {event : ChangeEvent}
    {engine : Engine} (h : outline.opening pass rest number event engine) :
    (dispatch number event engine).Keeps contract fun outcome after =>
      outcome = .ok () ∧ outline.telling pass rest number event [] after := by
  simp only [dispatch, keeps_bind, keeps_get, continues_ok]
  cases hhandle : engine.handle? number with
  | none => exact outline.keeps_tellListeners h
  | some handle =>
    cases hslot : handle.onChange with
    | none =>
      simp only [Option.bind_some, hslot]
      exact outline.keeps_tellListeners h
    | some listener =>
      simp only [Option.bind_some, hslot, keeps_bind]
      apply (keeps_tell outline.opening_allowsErrors (outline.opens h hhandle hslot)).imp
      intro outcome after hended
      obtain ⟨rfl, hopening⟩ := hended
      exact outline.keeps_tellListeners hopening

/-- A handle is visited: it stays as it is, its listeners are told, or the sweep breaks off. -/
theorem keeps_updateHandle {pass : Pass} {number : Nat} {rest : List Nat} {engine : Engine}
    (h : outline.visiting pass (number :: rest) engine) :
    (updateHandle pass.size pass.host number engine).Keeps contract
      (Ends (outline.visiting pass rest) outline.broken) := by
  simp only [updateHandle, keeps_bind, keeps_get, continues_ok]
  cases hhandle : engine.handle? number with
  | none =>
    apply outline.skips h
    intro handle query hsame
    rw [hhandle] at hsame
    cases hsame
  | some handle =>
    have hskip : (∀ query, handle.query = some query → handle.isDetached = false →
        query.evaluate (engine.surroundings pass.size pass.host) = .ok handle.isMatch) →
          outline.visiting pass rest engine := by
      intro hsame
      apply outline.skips h
      intro other query hother
      rw [hhandle] at hother
      cases hother
      exact hsame query
    cases hquery : handle.query with
    | none =>
      simp only [hquery, keeps_pure]
      exact hskip (by simp [hquery])
    | some query =>
      cases hdetached : handle.isDetached with
      | true =>
        simp only [hquery, hdetached, if_true, keeps_pure]
        exact hskip (by simp [hdetached])
      | false =>
        simp only [answer, hquery, hdetached, Bool.false_eq_true, if_false, keeps_bind, keeps_get,
          continues_ok, keeps_lift]
        cases hanswer : query.evaluate (engine.surroundings pass.size pass.host) with
        | error fault => exact outline.fails h hhandle hquery hanswer
        | ok isMatch =>
          simp only [continues_ok]
          split
          · next hsame =>
            apply hskip
            intro other hother _
            rw [hquery] at hother
            cases hother
            rw [hanswer, hsame]
          · next hchange =>
            simp only [keeps_bind, keeps_modify, continues_ok]
            refine (outline.keeps_dispatch
              (outline.changes h hhandle hquery hdetached hanswer hchange)).imp ?_
            intro outcome after htold
            obtain ⟨rfl, htelling⟩ := htold
            exact outline.closes htelling

/-- A pass visits the handles of a list one after the other, unless a fault breaks it off. -/
theorem keeps_updateAll {pass : Pass} {numbers : List Nat} {engine : Engine}
    (h : outline.visiting pass numbers engine) :
    (forAll (updateHandle pass.size pass.host) numbers engine).Keeps contract
      (Ends (outline.passed pass.number) outline.broken) := by
  induction numbers generalizing engine with
  | nil => exact outline.ends h
  | cons number rest ih =>
    rw [forAll, keeps_bind]
    apply (outline.keeps_updateHandle h).imp
    intro outcome after hafter
    cases outcome with
    | error fault => exact hafter
    | ok result => exact ih hafter

/-- A pass leads to where it has ended, unless a fault breaks it off. -/
theorem keeps_pass {count : Nat} {engine : Engine} (h : outline.between count engine) :
    (pass engine).Keeps contract (Ends (outline.passed (count + 1)) outline.broken) := by
  simp only [pass, readSize, keeps_bind, keeps_modify, keeps_get, continues_ok]
  have hprovided : engine.beginPass.providedSize = engine.providedSize := rfl
  rw [hprovided]
  cases hsize : engine.providedSize with
  | error fault =>
    exact outline.passed_allowsErrors _ _ rfl (outline.unreadable h hsize)
  | ok size =>
    obtain ⟨width, height⟩ := size
    simp only [keeps_bind, keeps_lift]
    cases width with
    | error fault => exact outline.misread h hsize (by simp)
    | ok width =>
      simp only [continues_ok, keeps_bind, keeps_lift]
      cases height with
      | error fault => exact outline.misread h hsize (by simp)
      | ok height =>
        simp only [continues_ok, keeps_pure, keeps_bind]
        have hvisiting := outline.reads h hsize
        have hall : ∀ after, after.registered = engine.registered →
            outline.visiting ⟨count + 1, (width, height), engine.preferences⟩
              engine.registered after →
            (forAll (updateHandle (width, height) engine.preferences)
              (after.registry.entries.map (·.2)) after).Keeps contract
                (Ends (outline.passed (count + 1)) outline.broken) := by
          intro after hregistered hafter
          rw [← hregistered] at hafter
          exact outline.keeps_updateAll hafter
        have hhost : engine.beginPass.preferences = engine.preferences := rfl
        obtain ⟨after, hread, rfl | ⟨record, hlevel, rfl⟩⟩ := readHost_cases engine.beginPass
        · rw [hread, hhost]
          exact hall _ rfl hvisiting
        · rw [hread, hhost]
          exact hall _ rfl (outline.visiting_allowsErrors _ _ hlevel hvisiting)

/-- The passes of a sweep end when no further one is asked for or allowed. -/
theorem keeps_passes {bound : Int} (hbound : limit = .atMost bound) {allowed count : Nat}
    (hcount : allowed + count = bound.toNat) {engine : Engine}
    (h : outline.between count engine) :
    (passes reason allowed count engine).Keeps contract (Ends outline.finished outline.broken) := by
  induction allowed generalizing count engine with
  | zero =>
    rw [passes, keeps_bind]
    apply (outline.keeps_pass h).imp
    intro outcome after hafter
    cases outcome with
    | error fault => exact hafter
    | ok result =>
      simp only [continues_ok, keeps_bind, keeps_get]
      cases hfollow : after.followUpRequested with
      | false => exact outline.rests hafter hfollow
      | true => exact outline.givesUp hafter hfollow hbound (by omega)
  | succ allowed ih =>
    rw [passes, keeps_bind]
    apply (outline.keeps_pass h).imp
    intro outcome after hafter
    cases outcome with
    | error fault => exact hafter
    | ok result =>
      simp only [continues_ok, keeps_bind, keeps_get]
      cases hfollow : after.followUpRequested with
      | false => exact outline.rests hafter hfollow
      | true => exact ih (by omega) (outline.follows hafter hfollow hbound (by omega))

/-- The same for every limit. -/
theorem keeps_allPasses {engine : Engine} (h : outline.between 0 engine) :
    (allPasses reason limit engine).Keeps contract (Ends outline.finished outline.broken) := by
  cases limit with
  | atMost bound => exact outline.keeps_passes rfl (by omega) h
  | incomparable =>
    rw [allPasses, keeps_bind]
    apply (outline.keeps_pass h).imp
    intro outcome after hafter
    cases outcome with
    | error fault => exact hafter
    | ok result =>
      simp only [continues_ok, keeps_bind, keeps_get]
      cases hfollow : after.followUpRequested with
      | false => exact outline.rests hafter hfollow
      | true => exact outline.stalls hafter hfollow rfl

/-- A sweep with an outline keeps the contract of its outline. -/
theorem keeps_sweep (outline : SweepOutline contract reason limit entry post) {engine : Engine}
    (h : entry engine) : (sweep reason engine).Keeps contract post := by
  simp only [sweep, keeps_bind, keeps_get, continues_ok]
  cases hsweeping : engine.isSweeping with
  | true => exact outline.joins h hsweeping
  | false =>
    obtain ⟨hlimit, hbetween⟩ := outline.begins h hsweeping
    simp only [Bool.false_eq_true, if_false, keeps_bind, keeps_modify, continues_ok,
      keeps_ensuring, hlimit]
    apply (outline.keeps_allPasses hbetween).imp
    intro outcome after hafter
    cases outcome with
    | error fault => exact outline.closesBroken fault hafter
    | ok result => exact outline.closesFinished hafter

end SweepOutline

end Breakpoint.Engine
