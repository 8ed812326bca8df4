import Breakpoint.Proofs.Engine.Listeners

/-!
# What a session keeps to

Besides the listeners, a session keeps its bindings in order: those that are about to listen are
known to be. A detached handle stays detached, and whoever is told of an event is called at once
and only once for it.
-/

namespace Breakpoint.Engine

open Journal

/-- The operations that wait after the outset of a move. -/
def Outset.waiting : Outset → List Suspension
  | .rests _ waiting | .sweeps _ _ waiting => waiting

variable {engine after : Engine} {waiting now : List Suspension}
  {move : Move Request (Except Fault Unit)} {event : Event} {outset : Outset}

/-! ## Bindings that are about to listen -/

/-- The binding that a suspended operation is about to join. -/
def Suspension.pledge? : Suspension → Option Nat
  | .joining binding _ _ => some binding
  | .telling _ _ | .refused _ => none

/-- The bindings that are about to listen to a handle. -/
def pledges (waiting : List Suspension) : List Nat := waiting.filterMap Suspension.pledge?

/-- Bindings that are about to listen are distinct and do not listen yet. -/
structure Pledged (waiting : List Suspension) (engine : Engine) : Prop where
  distinct : (pledges waiting).Nodup
  unjoined : ∀ binding ∈ pledges waiting, ∃ receiver,
    engine.bindings[binding]? = some { receiver }

/-- Pledges stay good while neither they nor the bindings change. -/
theorem Pledged.of_same (h : Pledged waiting engine) (hsame : pledges now = pledges waiting)
    (hbindings : after.bindings = engine.bindings) : Pledged now after := by
  refine ⟨hsame ▸ h.distinct, ?_⟩
  rw [hsame, hbindings]
  exact h.unjoined

/-- Destruction changes no bindings. -/
theorem bindings_tearDown (engine : Engine) : engine.tearDown.bindings = engine.bindings := by
  have hmarked : ∀ engine : Engine, engine.markDestroyed.bindings = engine.bindings := by
    intro engine
    rw [markDestroyed]
    split <;> rfl
  rw [tearDown, hmarked]
  show engine.stopObserving.bindings = _
  rw [stopObserving]
  split
  · dsimp only
    split <;> rfl
  · rfl

/-- Removing a listener for a type of events changes no bindings. -/
theorem bindings_unlistenTo (engine : Engine) (number : Nat) (type : Text)
    (listener : Option Listener) :
    (engine.unlistenTo number type listener).bindings = engine.bindings := by
  rw [unlistenTo]
  split
  · cases listener <;> rfl
  · rfl

/-- A request that calls no one neither makes a binding nor lets one listen. -/
theorem bindings_change {request : Request} {change : Engine → Engine}
    (h : request.change? = some change) (engine : Engine) :
    (change engine).bindings = engine.bindings := by
  cases request <;> cases h <;> dsimp only
  case addListener number listener => cases listener <;> rfl
  case removeListener number listener => cases listener <;> rfl
  case addEventListener number type listener =>
    rw [listenTo]
    split
    · cases listener <;> rfl
    · rfl
  case removeEventListener number type listener => exact bindings_unlistenTo engine _ _ _
  case unbind binding =>
    rw [unbind]
    split
    · exact bindings_unlistenTo engine _ _ _
    · rfl
  case setSize width height =>
    obtain ⟨pacer, hresize, -⟩ := engine.resize_eq width height
    rw [hresize]
  case destroy => exact bindings_tearDown engine
  all_goals rfl

/-- Asking for a query changes no bindings. -/
theorem bindings_asks {query : Value} {outcome : Except Fault Nat}
    (h : matchMedia query engine = .done outcome after) : after.bindings = engine.bindings := by
  cases asks_of_done h with
  | refused hrefused => rfl
  | known hknown => rfl
  | fails hnew hfinds hlevel => exact hfinds.bindings
  | makes hnew hfinds hlevel hfirst => exact hfinds.bindings

/-- A new binding is about to listen to a handle. -/
theorem Pledged.push (h : Pledged waiting engine) {receiver : Text}
    (hadded : after.bindings = engine.bindings ++ [({ receiver } : Binding)]) (number : Nat) :
    Pledged (.joining engine.bindings.length receiver number :: waiting) after := by
  -- whoever is about to listen is known, so the new binding is another
  have hold : ∀ binding ∈ pledges waiting, binding < engine.bindings.length := by
    intro binding hpledged
    obtain ⟨receiver, hbinding⟩ := h.unjoined binding hpledged
    exact (List.getElem?_eq_some_iff.1 hbinding).1
  have hpledges : pledges (.joining engine.bindings.length receiver number :: waiting) =
      engine.bindings.length :: pledges waiting := rfl
  constructor
  · rw [hpledges, List.nodup_cons]
    exact ⟨fun hpledged => absurd (hold _ hpledged) (Nat.lt_irrefl _), h.distinct⟩
  · intro binding hpledged
    rw [hadded]
    rcases List.mem_cons.1 (hpledges ▸ hpledged) with rfl | hpledged
    · exact ⟨receiver, List.getElem?_concat_length⟩
    · obtain ⟨other, hbinding⟩ := h.unjoined binding hpledged
      exact ⟨other, by rw [List.getElem?_append_left (hold binding hpledged), hbinding]⟩

/-- A new binding that does not listen. -/
theorem Pledged.refuse (h : Pledged waiting engine) {receiver : Text}
    (hadded : after.bindings = engine.bindings ++ [({ receiver } : Binding)]) (binding : Nat) :
    Pledged (.refused binding :: waiting) after :=
  have hpushed := h.push hadded 0
  ⟨h.distinct, fun other hpledged => hpushed.unjoined other (List.mem_cons_of_mem _ hpledged)⟩

/-- Bindings stay pledged until they listen. -/
theorem Pledged.hostStep (h : Pledged waiting engine)
    (hhost : HostStep move waiting engine outset after) : Pledged outset.waiting after := by
  cases hhost with
  | changes hchange => exact h.of_same rfl (bindings_change hchange engine)
  | asks hasks => exact h.of_same rfl (bindings_asks hasks)
  | @binds query receiver number isMatch waiting engine asked hasks =>
    have hpushed := h.push (bindings_asks hasks) number
    exact ⟨hpushed.distinct, hpushed.unjoined⟩
  | refuses hasks hlevel =>
    have hrefused := h.refuse (bindings_asks hasks) engine.bindings.length
    exact ⟨hrefused.distinct, hrefused.unjoined⟩
  | joinsSweep hprompts hsweeping => exact h.of_same rfl (by cases hprompts <;> rfl)
  | beginsSweep hprompts hfree => exact h.of_same rfl (by cases hprompts <;> rfl)
  | @hears turn answer reply waiting engine => exact h.of_same rfl (by cases reply <;> rfl)
  | @joins binding number receiver waiting engine =>
    obtain ⟨hnew, hdistinct⟩ := List.nodup_cons.1 h.distinct
    refine ⟨hdistinct, ?_⟩
    intro other hpledged
    obtain ⟨receiver, hother⟩ := h.unjoined other (List.mem_cons_of_mem _ hpledged)
    refine ⟨receiver, ?_⟩
    show (engine.bindings.modify binding _)[other]? = _
    rw [List.getElem?_modify, hother]
    apply congrArg some
    apply if_neg
    rintro rfl
    exact hnew hpledged
  | declines hfault => exact h.of_same rfl rfl
  | idles => exact h.of_same rfl rfl
  | drops =>
    exact ⟨(List.nodup_cons.1 h.distinct).2,
      fun other hpledged => h.unjoined other (List.mem_cons_of_mem _ hpledged)⟩
  | leaves => exact h.of_same rfl rfl

/-- A move makes bindings and drops none, and only a new one is about to listen afterwards. -/
theorem HostStep.bindings (h : HostStep move waiting engine outset after) :
    engine.bindings.length ≤ after.bindings.length ∧
      ∀ binding ∈ pledges outset.waiting,
        binding ∈ pledges waiting ∨ engine.bindings.length ≤ binding := by
  have hsame : after.bindings = engine.bindings →
      engine.bindings.length ≤ after.bindings.length := by
    intro hbindings
    rw [hbindings]
  have hadded : ∀ {receiver : Text}, after.bindings = engine.bindings ++ [({ receiver } : Binding)] →
      engine.bindings.length ≤ after.bindings.length := by
    intro receiver hbindings
    rw [hbindings, List.length_append]
    exact Nat.le_add_right _ _
  cases h with
  | changes hchange => exact ⟨hsame (bindings_change hchange engine), fun _ => .inl⟩
  | asks hasks => exact ⟨hsame (bindings_asks hasks), fun _ => .inl⟩
  | binds hasks =>
    refine ⟨hadded (bindings_asks hasks), ?_⟩
    intro binding hpledged
    rcases List.mem_cons.1 hpledged with rfl | hold
    · exact .inr (Nat.le_refl _)
    · exact .inl hold
  | refuses hasks hlevel => exact ⟨hadded (bindings_asks hasks), fun _ => .inl⟩
  | joinsSweep hprompts hsweeping => exact ⟨hsame (by cases hprompts <;> rfl), fun _ => .inl⟩
  | beginsSweep hprompts hfree => exact ⟨hsame (by cases hprompts <;> rfl), fun _ => .inl⟩
  | @hears turn answer reply waiting engine => exact ⟨hsame (by cases reply <;> rfl), fun _ => .inl⟩
  | @joins binding number receiver waiting engine =>
    refine ⟨?_, fun _ hpledged => .inl (List.mem_cons_of_mem _ hpledged)⟩
    show _ ≤ (engine.bindings.modify binding _).length
    rw [List.length_modify]
  | drops => exact ⟨Nat.le_refl _, fun _ hpledged => .inl (List.mem_cons_of_mem _ hpledged)⟩
  | declines hfault => exact ⟨Nat.le_refl _, fun _ => .inl⟩
  | idles => exact ⟨Nat.le_refl _, fun _ => .inl⟩
  | leaves => exact ⟨Nat.le_refl _, fun _ => .inl⟩

/-- No step of a sweep changes the bindings. -/
theorem Stage.Step.bindings_eq {stage next : Stage} (h : stage.Step engine next after) :
    after.bindings = engine.bindings := by
  cases h <;> rfl

/-! ## Detached handles -/

/-- The handle was made, and is detached. -/
def IsDetached (engine : Engine) (number : Nat) : Prop :=
  ∃ handle, engine.handle? number = some handle ∧ handle.isDetached = true

/-- Whether a handle is detached is told by its core. -/
theorem IsDetached.of_cores {number : Nat} (h : engine.IsDetached number)
    (hcores : (after.handle? number).map Handle.core = (engine.handle? number).map Handle.core) :
    after.IsDetached number := by
  obtain ⟨handle, hhandle, hdetached⟩ := h
  rw [hhandle, Option.map_some] at hcores
  obtain ⟨later, hlater, hcore⟩ := Option.map_eq_some_iff.1 hcores
  exact ⟨later, hlater, (Handle.sameCore hcore).isDetached.trans hdetached⟩

/-- A detached handle stays so through a plain change. -/
theorem IsDetached.plain {number : Nat} (h : engine.IsDetached number)
    (hplain : Plain engine after) : after.IsDetached number :=
  h.of_cores (hplain.handles number)

/-- A detached handle stays so when a query is asked for. -/
theorem IsDetached.asks {number : Nat} {query : Value} {outcome : Except Fault Nat}
    (h : engine.IsDetached number) (hasks : matchMedia query engine = .done outcome after) :
    after.IsDetached number := by
  rcases handle?_asks hasks number with hsame | ⟨hnone, -⟩
  · exact h.of_cores (by rw [hsame])
  · obtain ⟨handle, hhandle, -⟩ := h
    cases hhandle.symm.trans hnone

/-- A detached handle stays so when the engine is destroyed. -/
theorem IsDetached.tearDown {number : Nat} (h : engine.IsDetached number) :
    engine.tearDown.IsDetached number := by
  obtain ⟨handle, hhandle, hdetached⟩ := h
  refine ⟨_, by rw [handle?_tearDown, handle?_detachAll, hhandle, Option.map_some], ?_⟩
  split
  · rfl
  · exact hdetached

/-- Detached handles stay detached. -/
theorem HostStep.isDetached {number : Nat} (hhost : HostStep move waiting engine outset after)
    (h : engine.IsDetached number) : after.IsDetached number := by
  cases hhost with
  | @changes request change waiting engine hchange =>
    by_cases hdestroys : request = .destroy
    · subst hdestroys
      cases hchange
      exact h.tearDown
    · exact h.plain (.of_change hchange hdestroys engine)
  | asks hasks => exact h.asks hasks
  | binds hasks => exact ((h.plain (.addBinding engine _)).asks hasks).of_cores rfl
  | refuses hasks hlevel => exact ((h.plain (.addBinding engine _)).asks hasks).of_cores rfl
  | joinsSweep hprompts hsweeping => exact (h.plain (.of_prompts hprompts)).of_cores rfl
  | beginsSweep hprompts hfree => exact (h.plain (.of_prompts hprompts)).of_cores rfl
  | hears => exact h.plain (.hear _ _ engine)
  | joins => exact (h.plain (.listen engine _ _)).plain (.joinBinding _ _ _)
  | declines hfault => exact h.plain (.refuseOverrides engine _)
  | idles => exact h
  | drops => exact h
  | leaves => exact h

/-- A detached handle stays so through every step of a sweep. -/
theorem Stage.Step.isDetached {stage next : Stage} {number : Nat}
    (hstep : stage.Step engine next after) (h : engine.IsDetached number) :
    after.IsDetached number := by
  cases hstep with
  | @changes tour changed rest engine handle query isMatch hhandle hquery hattached hanswer hchange =>
    obtain ⟨detached, hdetached, hgone⟩ := h
    refine ⟨_, ?_, hgone⟩
    show (engine.changeHandle changed _).handle? number = _
    rw [handle?_changeHandle, if_neg, hdetached]
    rintro rfl
    rw [hdetached] at hhandle
    cases hhandle
    cases hgone.symm.trans hattached
  | _ => exact h

/-! ## What every session keeps to -/

/-- What is known of those who are still to be told at a stage: no one is told twice. -/
def Stage.TellsOnce : Stage → Prop
  | .telling _ left => left.Nodup
  | _ => True

/-- No handle has a listener twice, the bindings that are about to listen are known, a suspended
dispatch tells no one twice, and whoever was told last was also called. -/
structure IsRegular (waiting : List Suspension) (engine : Engine) : Prop where
  distinct : IsDistinct engine
  pledged : Pledged waiting engine
  once : ∀ turn ∈ turns waiting, turn.continued.TellsOnce
  called : ∀ number event listener journal, engine.journal ≠ .told number event listener :: journal

/-- If no one was told last and what is added tells no one, no one was told last. -/
theorem ne_told_of_adds {kind : Entry → Prop} {before after : Journal}
    (hkind : ∀ number event listener, ¬ kind (.told number event listener))
    (hadds : Adds kind before after)
    (h : ∀ number event listener journal, before ≠ .told number event listener :: journal)
    (number : Nat) (event : ChangeEvent) (listener : Listener) (journal : Journal) :
    after ≠ .told number event listener :: journal := by
  obtain ⟨added, hadded, rfl⟩ := hadds
  cases added with
  | nil => exact h number event listener journal
  | cons entry added =>
    rintro hsame
    obtain ⟨rfl, -⟩ := List.cons.inj hsame
    exact hkind _ _ _ (hadded _ List.mem_cons_self)

variable {stage next : Stage}

/-- A move keeps a session regular up to where a sweep goes on. -/
theorem IsRegular.hostStep (h : IsRegular waiting engine)
    (hhost : HostStep move waiting engine outset after) : IsRegular outset.waiting after := by
  refine ⟨hhost.gains.isDistinct h.distinct, h.pledged.hostStep hhost, ?once, ?called⟩
  case once =>
    cases outset with
    | rests event now =>
      intro turn hturn
      rw [Outset.waiting, hhost.turns_eq] at hturn
      exact h.once turn hturn
    | sweeps stage answer now =>
      cases hhost with
      | beginsSweep hprompts hfree => exact h.once
      | hears => exact fun turn hturn => h.once turn (List.mem_cons_of_mem _ hturn)
  case called =>
    cases outset with
    | rests event now => exact ne_told_of_adds (fun _ _ _ => id) (Quiet.of_hostStep hhost).journal h.called
    | sweeps stage answer now =>
      cases hhost with
      | beginsSweep hprompts hfree =>
        intro number event listener journal hsame
        cases hsame
      | hears =>
        exact ne_told_of_adds (fun _ _ _ => id) (Quiet.of_plain (.hear _ _ engine)).journal h.called

/-- A sweep that begins, or goes on, tells no one twice. -/
theorem IsRegular.tellsOnce {answer : Answer} (h : IsRegular waiting engine)
    (hhost : HostStep move waiting engine (.sweeps stage answer now) after) : stage.TellsOnce := by
  cases hhost with
  | beginsSweep hprompts hfree => trivial
  | hears => exact h.once _ List.mem_cons_self

/-- A step of a sweep keeps the session regular. -/
theorem IsRegular.step (h : IsRegular waiting engine)
    (hstep : stage.Step engine next after) : IsRegular waiting after where
  distinct number := hstep.listeners_eq number ▸ h.distinct number
  pledged := h.pledged.of_same rfl hstep.bindings_eq
  once := h.once
  called := ne_told_of_adds (fun _ _ _ => id) hstep.adds h.called

/-- No step of a sweep begins to tell anyone twice. -/
theorem Stage.Step.tellsOnce (hstep : stage.Step engine next after) (hdistinct : IsDistinct engine) :
    next.TellsOnce := by
  cases hstep with
  | @lists announcement engine => exact hdistinct announcement.number
  | _ => trivial

/-- An engine stays regular when its sweep ends. -/
theorem IsRegular.ends (h : IsRegular waiting engine) : IsRegular waiting engine.endSweep where
  distinct := h.distinct
  pledged := h.pledged.of_same rfl rfl
  once := h.once
  called := by rintro number event listener journal ⟨⟩

/-- A session is regular when a listener is called. -/
theorem IsRegular.calls {turn : Turn} {listener : Listener} {answer : Answer}
    (h : IsRegular waiting engine) (honce : stage.TellsOnce)
    (hcalls : stage.Calls engine turn listener) :
    IsRegular (.telling turn answer :: waiting) (engine.noteTurn turn.announcement listener) where
  distinct := h.distinct
  pledged := h.pledged.of_same rfl rfl
  once := by
    refine List.forall_mem_cons.2 ⟨?_, h.once⟩
    cases hcalls with
    | slot hslot => trivial
    | listed => exact (List.nodup_cons.1 honce).2
  called := by rintro number event listener journal ⟨⟩

/-- A session stays regular. -/
theorem IsRegular.leads (h : IsRegular waiting engine) (hfiled : engine.IsFiled)
    (hpoised : Poised waiting engine) (hleads : Leads move waiting engine event now after) :
    IsRegular now after := by
  refine hleads.keeps (fun rest stage last => IsRegular rest last ∧ stage.TellsOnce) IsRegular
    ?_ ?_ ?_ ?_ ?_ hfiled hpoised
  · exact fun hhost => h.hostStep hhost
  · exact fun hhost => ⟨h.hostStep hhost, h.tellsOnce hhost⟩
  · rintro rest stage engine next after - - hstep ⟨hregular, -⟩
    exact ⟨hregular.step hstep, hstep.tellsOnce hregular.distinct⟩
  · exact fun _ _ hlast => hlast.1.ends
  · exact fun _ _ hcalls hlast => hlast.1.calls hlast.2 hcalls

/-- A delivery is not the call of someone who was told of an event. -/
theorem HostStep.ne_told {callback : Callback}
    (hhost : HostStep move waiting engine (.rests (.called callback) now) after)
    (h : IsRegular waiting engine) (called : Callback) (number : Nat) (event : ChangeEvent)
    (listener : Listener) (journal : Journal) :
    after.journal ≠ .called called :: .told number event listener :: journal := by
  have hbefore : ∀ {asked : Engine}, Quiet engine asked →
      asked.journal ≠ .told number event listener :: journal := fun hquiet =>
    ne_told_of_adds (fun _ _ _ => id) hquiet.journal h.called _ _ _ _
  cases hhost with
  | binds hasks =>
    intro hsame
    have hasked := (Quiet.of_plain (.addBinding engine _)).trans (.of_asks hasks)
    exact hbefore hasked (List.cons.inj hsame).2
  | refuses hasks hlevel =>
    intro hsame
    have hasked := (Quiet.of_plain (.addBinding engine _)).trans (.of_asks hasks)
    exact hbefore (hasked.trans (.of_plain (.noteRecords _ hlevel))) (List.cons.inj hsame).2

/-- A new engine is regular. -/
theorem isRegular_create (options : EngineOptions) : IsRegular [] (create options) where
  distinct _ := List.nodup_nil
  pledged := ⟨List.nodup_nil, by simp [pledges]⟩
  once _ hnone := by cases hnone
  called := ne_told_of_adds (fun _ _ _ => id) (adds_create options) (by simp)

/-- The session with an engine is regular at every moment. -/
theorem regular_sessionAfter (options : EngineOptions)
    (moves : List (Move Request (Except Fault Unit))) :
    ∃ waiting, Stands (sessionAfter options moves) waiting ∧
      IsRegular waiting (sessionAfter options moves).state := by
  refine (stands_new options).run IsRegular ?_ (isRegular_create options) moves
  exact fun hfiled hpoised hleads hregular => hregular.leads hfiled hpoised hleads

end Breakpoint.Engine
