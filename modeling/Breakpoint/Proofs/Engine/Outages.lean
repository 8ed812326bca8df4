import Breakpoint.Proofs.Engine.Suspensions

/-!
# While the size cannot be read

A viewport that does not tell its size keeps no request from its end. A sweep visits no handle and
asks for no further pass, so it ends before anyone is told, and a handle that is made answers no.
Whatever the host asks for in the meantime, and in whatever order, the handles that were there stay
as they were. Only what is refused at any time is refused then too: a query that cannot be read, and
overrides without a text.
-/

namespace Breakpoint.Engine

open Operation

variable {engine middle after : Engine}

/-- The viewport does not tell its size. -/
def IsUnread (engine : Engine) : Prop := ∃ fault, engine.providedSize = .error fault

/-- Whether the size is told depends on the side of the host alone. -/
theorem IsUnread.of_provider (h : engine.IsUnread) (hsame : after.provider = engine.provider) :
    after.IsUnread := by
  obtain ⟨fault, hfault⟩ := h
  refine ⟨fault, ?_⟩
  rw [providedSize] at hfault ⊢
  rw [hsame]
  cases hraw : engine.provider.rawSize with
  | some value =>
    rw [hraw] at hfault
    exact hfault
  | none =>
    rw [hraw] at hfault
    split at hfault
    · next hfails => rw [if_pos hfails, hfault]
    · cases hfault

/-- The later engine has the same handles as the earlier, and after them new ones that answer no. -/
structure Endures (before after : Engine) : Prop where
  provider : after.provider = before.provider
  handles : ∃ made, after.handles = before.handles ++ made ∧ ∀ handle ∈ made, handle.isMatch = false

namespace Endures

/-- What is the same endures. -/
theorem of_same (hprovider : after.provider = engine.provider)
    (hhandles : after.handles = engine.handles) : Endures engine after :=
  ⟨hprovider, [], by rw [hhandles, List.append_nil], by simp⟩

/-- An engine endures what leaves it as it is. -/
theorem refl (engine : Engine) : Endures engine engine := of_same rfl rfl

/-- What endures one change and then another endures both. -/
theorem trans (hfirst : Endures engine middle) (hsecond : Endures middle after) :
    Endures engine after := by
  obtain ⟨made, hmade, hanswers⟩ := hfirst.handles
  obtain ⟨more, hmore, hothers⟩ := hsecond.handles
  refine ⟨hsecond.provider.trans hfirst.provider, made ++ more, ?_, ?_⟩
  · rw [hmore, hmade, List.append_assoc]
  · exact List.forall_mem_append.2 ⟨hanswers, hothers⟩

end Endures

/-! ## Operations -/

/-- While the size is not told, the operation ends at once and without a fault, and the handles
endure. -/
def Weathers {α : Type} (operation : Act α) : Prop :=
  ∀ engine, engine.IsUnread → ∃ result after, operation engine = .done (.ok result) after ∧
    Endures engine after

section Rules

variable {α β : Type}

/-- Nothing is done. -/
theorem weathers_pure (result : α) : Weathers (pure result) :=
  fun engine _ => ⟨result, engine, rfl, .refl engine⟩

/-- A change that the handles endure is made. -/
theorem weathers_modify {change : Engine → Engine} (h : ∀ engine, Endures engine (change engine)) :
    Weathers (Operation.modify change) :=
  fun engine _ => ⟨(), change engine, rfl, h engine⟩

/-- One operation comes after another. -/
theorem Weathers.bind {first : Act α} {next : α → Act β} (hfirst : Weathers first)
    (hnext : ∀ result, Weathers (next result)) : Weathers (first >>= next) := by
  intro engine hunread
  obtain ⟨result, middle, hdone, hendures⟩ := hfirst engine hunread
  obtain ⟨last, after, hlast, hrest⟩ := hnext result middle (hunread.of_provider hendures.provider)
  exact ⟨last, after, (bind_of_done hdone).trans hlast, hendures.trans hrest⟩

/-- What is done does not depend on what is read of the engine. -/
theorem weathers_read {next : Engine → Act α} (h : ∀ engine, Weathers (next engine)) :
    Weathers (Operation.get >>= next) :=
  fun engine hunread => h engine engine hunread

/-- The result of an operation is taken for another one. -/
theorem Weathers.map {operation : Act α} (h : Weathers operation) (f : α → β) :
    Weathers (f <$> operation) := by
  rw [map_eq_pure_bind]
  exact h.bind fun result => weathers_pure (f result)

/-- An operation is repeated for each of some members. -/
theorem weathers_forAll {run : α → Act Unit} (h : ∀ member, Weathers (run member))
    (members : List α) : Weathers (forAll run members) := by
  induction members with
  | nil => exact weathers_pure ()
  | cons first rest ih => exact (h first).bind fun _ => ih

end Rules

/-- A pass that cannot read the size asks for no further one, so the sweep is over. -/
theorem sweep_of_unreadable (reason : SweepReason) {fault : Fault} (hfree : engine.isSweeping = false)
    (hsize : engine.providedSize = .error fault) :
    sweep reason engine = .done (.ok ())
      ((engine.beginSweep reason).beginPass.note (.record (sizeFailure fault))).endSweep := by
  have hpass : pass (engine.beginSweep reason) = .done (.ok ())
      ((engine.beginSweep reason).beginPass.note (.record (sizeFailure fault))) :=
    pass_of_unreadable hsize
  have hprogram : (firstStage reason engine.followUps).program (engine.beginSweep reason) =
      .done (.ok ()) ((engine.beginSweep reason).beginPass.note (.record (sizeFailure fault))) :=
    (bind_of_done hpass).trans (Round.onward_eq _ _)
  simp only [sweep, get_bind, hfree, Bool.false_eq_true, if_false, modify_bind,
    allPasses_eq_program]
  exact congrArg (Dialogue.andThen · _) hprogram

/-- A sweep is over at once, or is put off until the one under way has passed. -/
theorem weathers_sweep (reason : SweepReason) : Weathers (sweep reason) := by
  intro engine hunread
  cases hsweeping : engine.isSweeping with
  | true =>
    refine ⟨(), engine.requestFollowUp, ?_, .of_same rfl rfl⟩
    simp only [sweep, get_bind, hsweeping, if_true]
    rfl
  | false =>
    obtain ⟨fault, hsize⟩ := hunread
    exact ⟨(), _, sweep_of_unreadable reason hsweeping hsize, .of_same rfl rfl⟩

/-- The frames that are due do no more than begin a sweep. -/
theorem weathers_flush (limit : Option Int) : Weathers (flush limit) := by
  have hframe : Weathers runFrame := by
    refine weathers_read fun engine => ?_
    cases engine.pacer.isPending with
    | false => exact weathers_pure ()
    | true =>
      refine Weathers.bind (weathers_modify fun engine => ?_) fun _ => weathers_sweep .resize
      exact .of_same rfl rfl
  refine weathers_read fun engine => Weathers.bind (weathers_modify fun engine => ?_) fun _ => ?_
  · exact .of_same rfl rfl
  · exact (weathers_forAll (fun _ => hframe) _).bind fun _ => weathers_pure _

/-! ## Requests -/

/-- The request asks for a query, for overrides, for a size or for frames. -/
def Request.IsRoutine : Request → Prop
  | .matchMedia _ | .setOverrides _ | .setSize _ _ | .flush _ => True
  | _ => False

/-- How a request is served while the size is not told: it is refused, which leaves nothing but
records, or it has an answer, and the handles endure. -/
inductive Serves (request : Request) (before : Engine) : Except Fault Answer → Engine → Prop where
  | refused {fault : Fault} (records : List LogRecord) (hdeclines : before.Declines request fault) :
      Serves request before (.error fault) (before.noteRecords records)
  | answered {answer : Answer} {after : Engine}
      (haccepted : ∀ fault, ¬ before.Declines request fault) (hendures : Endures before after) :
      Serves request before (.ok answer) after

/-- The handles endure whether a request is refused or not. -/
theorem Serves.endures {request : Request} {outcome : Except Fault Answer}
    (h : Serves request engine outcome after) : Endures engine after := by
  cases h with
  | refused records hdeclines => exact .of_same rfl rfl
  | answered haccepted hendures => exact hendures

/-- The request ends at once and is served, if the size is not told. -/
def IsServed (engine : Engine) (request : Request) : Prop :=
  ∃ outcome after, perform request engine = .done outcome after ∧
    Serves request engine outcome after

/-- What weathers the failure and is never refused is served. -/
theorem Weathers.isServed {request : Request} (h : Weathers (perform request))
    (hunread : engine.IsUnread) (haccepted : ∀ fault, ¬ engine.Declines request fault) :
    engine.IsServed request := by
  obtain ⟨answer, after, hdone, hendures⟩ := h engine hunread
  exact ⟨.ok answer, after, hdone, .answered haccepted hendures⟩

/-- The first answer of a handle is no, since its query has nothing to be evaluated against. -/
theorem firstAnswer_of_unread (hunread : engine.IsUnread) (tree : Option Query) :
    ∃ records, firstAnswer tree engine = .done (.ok false) (engine.noteRecords records) := by
  cases tree with
  | none => exact ⟨[], rfl⟩
  | some query =>
    obtain ⟨fault, hsize⟩ := hunread
    have hnone : readSize engine = .done (.ok none)
        (engine.note (.record (sizeFailure fault))) := by
      rw [readSize_eq, hsize]
    exact ⟨[sizeFailure fault], bind_of_done hnone⟩

/-- A query is refused, or its handle is given: a handle that is made answers no. -/
theorem isServed_matchMedia (query : Value) (hunread : engine.IsUnread) :
    engine.IsServed (.matchMedia query) := by
  -- what has an answer was not refused
  have hserved : ∀ {number : Nat} {after : Engine}, matchMedia query engine = .done (.ok number) after →
      Endures engine after → engine.IsServed (.matchMedia query) := by
    intro number after hdone hendures
    refine ⟨_, after, perform_matchMedia hdone, .answered ?_ hendures⟩
    intro fault hdeclines
    cases hdeclines with
    | query hrefuses => cases hdone.symm.trans (matchMedia_of_refuses hrefuses)
  have hrefused : ∀ {fault : Fault}, engine.Refuses query fault →
      engine.IsServed (.matchMedia query) := fun hrefuses =>
    ⟨_, _, perform_matchMedia (matchMedia_of_refuses hrefuses), .refused [] (.query hrefuses)⟩
  cases htext : query.toText engine.room with
  | error fault => exact hrefused (.textless htext)
  | ok media =>
    obtain rfl := display_of_toText htext
    have hasked : matchMedia query engine = matchText query.display engine := matchMedia_of_text htext
    simp only [matchText, get_bind] at hasked
    cases hregistered : engine.registry.get? query.display with
    | some number =>
      rw [hregistered] at hasked
      exact hserved hasked (.refl engine)
    | none =>
      rw [hregistered] at hasked
      obtain ⟨tree, found, hfound, hfinds⟩ | ⟨fault, -, hunknown, hread⟩ :=
        parseCached_cases query.display engine
      · have hprovider : found.provider = engine.provider := by rw [hfinds.same]
        obtain ⟨records, hdone⟩ := firstAnswer_of_unread (hunread.of_provider hprovider) tree
        refine hserved (hasked.trans ((bind_of_done hfound).trans (bind_of_done hdone))) ?_
        refine ⟨hprovider, [_], congrArg (· ++ [_]) hfinds.handles, ?_⟩
        simp
      · exact hrefused (.endless htext hregistered hunknown hread)

/-- Overrides are refused, or they replace those before and a sweep is asked for. -/
theorem isServed_setOverrides (values : Dict Value) (hunread : engine.IsUnread) :
    engine.IsServed (.setOverrides values) := by
  have hstart : perform (.setOverrides values) engine =
      ((fun _ => .nothing) <$> setOverrides values : Act Answer) engine := rfl
  rw [map_eq_pure_bind] at hstart
  simp only [setOverrides, bind_assoc, get_bind] at hstart
  cases hfault : Overrides.fault? engine.room values with
  | some fault =>
    rw [hfault] at hstart
    exact ⟨_, _, hstart, .refused (Overrides.refusedRecords engine.room values) (.overrides hfault)⟩
  | none =>
    rw [hfault] at hstart
    simp only [bind_assoc, modify_bind] at hstart
    have hreplaced : Endures engine (engine.replaceOverrides values) := .of_same rfl rfl
    obtain ⟨result, after, hdone, hendures⟩ :=
      weathers_sweep .overrides _ (hunread.of_provider hreplaced.provider)
    refine ⟨_, after, hstart.trans (bind_of_done hdone), .answered ?_ (hreplaced.trans hendures)⟩
    intro fault hdeclines
    cases hdeclines with
    | overrides hother => cases hfault.symm.trans hother

/-- Every request is served while the size is not told. -/
theorem isServed_perform {request : Request} (h : request.IsRoutine) (hunread : engine.IsUnread) :
    engine.IsServed request := by
  cases request with
  | matchMedia query => exact isServed_matchMedia query hunread
  | setOverrides values => exact isServed_setOverrides values hunread
  | flush limit =>
    have hweathers : Weathers (perform (.flush limit)) := (weathers_flush limit).map _
    exact hweathers.isServed hunread (fun _ hnone => nomatch hnone)
  | setSize width height =>
    have hresized : Weathers (perform (.setSize width height)) := by
      refine (weathers_modify fun engine => ?_).map _
      obtain ⟨pacer, hresize, -⟩ := engine.resize_eq width height
      show Endures engine (engine.resize width height)
      rw [hresize]
      exact .of_same rfl rfl
    exact hresized.isServed hunread (fun _ hnone => nomatch hnone)
  | _ => exact h.elim

/-- The requests are served one after the other, each with its outcome. -/
inductive ServesAll : List (Request × Except Fault Answer) → Engine → Engine → Prop where
  | nil (engine : Engine) : ServesAll [] engine engine
  | cons {request : Request} {outcome : Except Fault Answer} {before middle after : Engine}
      {rest : List (Request × Except Fault Answer)} (hfirst : Serves request before outcome middle)
      (hrest : ServesAll rest middle after) : ServesAll ((request, outcome) :: rest) before after

/-- The events of requests that each end at once, the last first. -/
def answered (served : List (Request × Except Fault Answer)) : List Event :=
  (served.flatMap fun service => [.begun service.1, .ended service.2]).reverse

/-- The host makes some requests one after the other. -/
def asking (requests : List Request) : List (Move Request (Except Fault Unit)) :=
  requests.map .begin

/-- What a row of requests has led to: each was served before the next was begun, so that no
callback was called, the same waits as before, and the handles have endured. -/
structure IsWeathered (requests : List Request) (before after : EngineSession) : Prop where
  waiting : after.waiting = before.waiting
  served : ∃ served, served.map Prod.fst = requests ∧
    ServesAll served before.state after.state ∧ after.history = answered served ++ before.history
  endures : Endures before.state after.state

/-- While the size is not told, each of a row of requests ends at once, whatever it finds, and the
handles endure. -/
theorem isWeathered_run {session : EngineSession} (hunread : session.state.IsUnread)
    {requests : List Request} (hroutine : ∀ request ∈ requests, request.IsRoutine) :
    IsWeathered requests session (session.run perform (asking requests)) := by
  induction requests generalizing session with
  | nil => exact ⟨rfl, ⟨[], rfl, .nil _, rfl⟩, .refl _⟩
  | cons request requests ih =>
    rw [List.forall_mem_cons] at hroutine
    obtain ⟨outcome, after, hdone, hserves⟩ := isServed_perform hroutine.1 hunread
    have hendures := hserves.endures
    have hstep : session.step perform (.begin request) =
        ({ session with state := after }.note (.begun request)).note (.ended outcome) := by
      rw [Session.step, hdone]
      rfl
    have hrun : session.run perform (asking (request :: requests)) =
        (session.step perform (.begin request)).run perform (asking requests) := rfl
    have hstill : (session.step perform (.begin request)).state.IsUnread := by
      rw [hstep]
      exact hunread.of_provider hendures.provider
    have hrest := ih hstill hroutine.2
    rw [hstep] at hrun hrest
    rw [hrun]
    obtain ⟨served, hserved, hall, hhistory⟩ := hrest.served
    refine ⟨hrest.waiting, ⟨(request, outcome) :: served, ?_, ?_, ?_⟩, hendures.trans hrest.endures⟩
    · rw [List.map_cons, hserved]
    · exact .cons hserves hall
    · rw [hhistory]
      simp [answered, Session.note]

end Breakpoint.Engine
