import Breakpoint.Proofs.Engine.Freshness

/-!
# Live answers agree with evaluation

A handle's answer is found when the handle is made and again by each sweep. In between the size,
the overrides and the handles may change, also in the middle of a pass that took its size before.
Nothing is lost: whoever changes the size leaves a frame pending, and whoever changes the
overrides, or starts that frame, during a sweep has asked for a further pass.

So a state in which no sweep runs is settled, or has a frame pending, or has a warning behind it
that a sweep was broken off. The host's side is taken to be fixed, and its size to be readable.
-/

namespace Breakpoint.Engine

/-! ## The contract -/

/-- What a whole operation leaves as it is: the sweep under way and the host, and inside of a
sweep, if nothing is to come after it, the size, the overrides and the answers. -/
structure Settles (before after : Engine) : Prop where
  sweeping : after.isSweeping = before.isSweeping
  host : after.host = before.host
  quiet : before.isSweeping = true → after.IsQuiet → before.IsQuiet ∧ Undisturbed before after

/-- What settles through two changes settles through both. -/
theorem Settles.trans {before middle after : Engine} (hfirst : Settles before middle)
    (hsecond : Settles middle after) : Settles before after where
  sweeping := hsecond.sweeping.trans hfirst.sweeping
  host := hsecond.host.trans hfirst.host
  quiet hsweeping hquiet := by
    obtain ⟨hmiddle, hlater⟩ := hsecond.quiet (hfirst.sweeping.trans hsweeping) hquiet
    obtain ⟨hbefore, hearlier⟩ := hfirst.quiet hsweeping hmiddle
    exact ⟨hbefore, hearlier.trans hlater⟩

/-- Outside of a sweep any operation will do that leaves no sweep behind. -/
theorem Settles.of_not_sweeping {before after : Engine} (hbefore : before.isSweeping = false)
    (hafter : after.isSweeping = false) (hhost : after.host = before.host) :
    Settles before after where
  sweeping := hafter.trans hbefore.symm
  host := hhost
  quiet hsweeping := by simp [hbefore] at hsweeping

/-- Inside of a sweep any operation will do after which something is to come. -/
theorem Settles.of_not_quiet {before after : Engine} (hsweeping : after.isSweeping = before.isSweeping)
    (hhost : after.host = before.host) (hquiet : ¬ after.IsQuiet) : Settles before after :=
  ⟨hsweeping, hhost, fun _ h => absurd h hquiet⟩

/-- Nothing is left to do: a sweep was broken off, a frame is pending, or all answers are
fresh. -/
def IsDone (engine : Engine) : Prop :=
  engine.HasWarned ∨ engine.pacer.isPending = true ∨ engine.IsSettled

/-- The contract of an engine with its listeners about the freshness of answers. -/
def agreement : Contract Engine Callback where
  Valid engine := engine.IsGrounded ∧ (engine.isSweeping = false → engine.IsDone)
  Step := Settles
  Call _ _ := True
  refl engine := ⟨rfl, rfl, fun _ hquiet => ⟨hquiet, (Alike.refl engine).undisturbed⟩⟩
  trans := Settles.trans

/-- What is done stays done in a state that is alike. -/
theorem Alike.isDone {before after : Engine} (h : Alike before after) (hdone : before.IsDone) :
    after.IsDone := by
  rcases hdone with ⟨reason, passes, hwarned⟩ | hpending | hsettled
  · exact .inl ⟨reason, passes, h.journal hwarned⟩
  · exact .inr (.inl (h.pending.trans hpending))
  · refine .inr (.inr ?_)
    intro number hnumber
    rcases h.undisturbed.registered number hnumber with hnumber | hfresh
    · exact (hsettled number hnumber).undisturbed h.undisturbed
    · exact hfresh

/-- A change beside the answers settles. -/
theorem Alike.settles {before after : Engine} (h : Alike before after) : Settles before after where
  sweeping := by rw [h.same]
  host := by rw [h.same]
  quiet _ hquiet := by
    refine ⟨⟨?_, ?_⟩, h.undisturbed⟩
    · have hrequested := hquiet.1
      rw [h.same] at hrequested
      exact hrequested
    · exact h.pending.symm.trans hquiet.2

/-- A change beside the answers is one that any operation may make. -/
theorem Alike.agreement {before after : Engine} (h : Alike before after)
    (hvalid : agreement.Valid before) : agreement.Valid after ∧ agreement.Step before after := by
  obtain ⟨hgrounded, hdone⟩ := hvalid
  refine ⟨⟨h.grounded hgrounded, ?_⟩, h.settles⟩
  intro hnot
  rw [h.settles.sweeping] at hnot
  exact h.isDone (hdone hnot)

/-- A handle is fresh when it is registered, and the others keep their answers. -/
theorem undisturbed_register {engine : Engine} (media : Text) (hgrounded : engine.IsGrounded)
    {tree : Option Query} {isMatch : Bool} (hfirst : engine.IsFirstAnswer tree isMatch) :
    Undisturbed engine (engine.register { media, query := tree, isMatch }) where
  size := rfl
  overrides := rfl
  host := rfl
  handles number handle hhandle := by
    have hlt : number < engine.handles.length := (List.getElem?_eq_some_iff.1 hhandle).1
    refine ⟨handle, ?_, rfl, rfl⟩
    rw [handle?_register, if_neg (Nat.ne_of_lt hlt)]
    exact hhandle
  registered number hnumber := by
    obtain ⟨⟨name, value⟩, hentry, rfl⟩ := List.mem_map.1 hnumber
    rcases Dict.mem_insert hentry with hnew | hold
    · cases hnew
      refine .inr ⟨_, (handle?_register _ _ _).trans (if_pos rfl), ?_⟩
      intro query hquery
      cases hquery
      exact hfirst _ _ hgrounded.providedSize
    · exact .inl (List.mem_map.2 ⟨_, hold, rfl⟩)

/-- Registering a handle is a change that any operation may make. -/
theorem agreement_register {engine : Engine} (hvalid : agreement.Valid engine) {media : Text}
    {tree : Option Query} {isMatch : Bool} (htree : Query.ReadsAs media tree)
    (hfirst : engine.IsFirstAnswer tree isMatch) :
    agreement.Valid (engine.register { media, query := tree, isMatch }) ∧
      agreement.Step engine (engine.register { media, query := tree, isMatch }) := by
  obtain ⟨hgrounded, hdone⟩ := hvalid
  have hundisturbed := undisturbed_register media hgrounded hfirst
  refine ⟨⟨hgrounded.register htree hfirst, ?_⟩, rfl, rfl, fun _ hquiet => ⟨hquiet, hundisturbed⟩⟩
  intro hnot
  rcases hdone hnot with ⟨reason, passes, hwarned⟩ | hpending | hsettled
  · exact .inl ⟨reason, passes, List.mem_cons_of_mem _ hwarned⟩
  · exact .inr (.inl hpending)
  · refine .inr (.inr ?_)
    intro number hnumber
    rcases hundisturbed.registered number hnumber with hnumber | hfresh
    · exact (hsettled number hnumber).undisturbed hundisturbed
    · exact hfresh

/-! ## Sweeps -/

/-- A sweep is under way, and none was when the operation started. -/
structure Sweeps (start engine : Engine) : Prop where
  grounded : engine.IsGrounded
  sweeping : engine.isSweeping = true
  host : engine.host = start.host
  start : start.isSweeping = false

/-- A pass has yet to visit some handles: if nothing is to come after it, it took the present
size and preferences, and the other handles are fresh. -/
structure Visits (start : Engine) (pass : Pass) (rest : List Nat) (engine : Engine) : Prop where
  sweeps : Sweeps start engine
  quiet : engine.IsQuiet → pass.size = engine.size ∧ pass.host = engine.preferences ∧
    ∀ number ∈ engine.registered, number ∉ rest → engine.IsFresh number

namespace Sweeps

variable {start engine after : Engine}

/-- A sweep goes on through a change beside the answers. -/
theorem alike (h : Sweeps start engine) (halike : Alike engine after) : Sweeps start after where
  grounded := halike.grounded h.grounded
  sweeping := halike.settles.sweeping.trans h.sweeping
  host := halike.settles.host.trans h.host
  start := h.start

/-- The host may have control while a sweep is under way. -/
theorem valid (h : Sweeps start engine) : agreement.Valid engine := by
  refine ⟨h.grounded, ?_⟩
  intro hnot
  simp [h.sweeping] at hnot

/-- What listeners do inside of a sweep does not end it. -/
theorem listened (h : Sweeps start engine) (hvalid : agreement.Valid after)
    (hstep : Settles engine after) : Sweeps start after where
  grounded := hvalid.1
  sweeping := hstep.sweeping.trans h.sweeping
  host := hstep.host.trans h.host
  start := h.start

/-- A sweep that ends with nothing left to do is an operation that the contract allows. -/
theorem ended (h : Sweeps start engine) (hdone : engine.IsDone) :
    agreement.Valid engine.endSweep ∧ agreement.Step start engine.endSweep := by
  refine ⟨⟨h.grounded.of_same rfl, fun _ => ?_⟩, Settles.of_not_sweeping h.start rfl h.host⟩
  rcases hdone with ⟨reason, passes, hwarned⟩ | hpending | hsettled
  · exact .inl ⟨reason, passes, List.mem_cons_of_mem _ hwarned⟩
  · exact .inr (.inl hpending)
  · exact .inr (.inr hsettled)

end Sweeps

namespace Visits

variable {start engine after : Engine} {pass : Pass} {rest : List Nat}

/-- What leaves a sweep quiet only if it was, and then disturbs nothing, leaves what a pass has
yet to visit. -/
theorem undisturbed (h : Visits start pass rest engine) (hsweeps : Sweeps start after)
    (hquiet : after.IsQuiet → engine.IsQuiet ∧ Undisturbed engine after) :
    Visits start pass rest after := by
  refine ⟨hsweeps, ?_⟩
  intro hafter
  obtain ⟨hbefore, hundisturbed⟩ := hquiet hafter
  obtain ⟨hsize, hhost, hfresh⟩ := h.quiet hbefore
  refine ⟨hsize.trans hundisturbed.size.symm, ?_, ?_⟩
  · rw [hhost, preferences, preferences, hundisturbed.host]
  · intro number hnumber hrest
    rcases hundisturbed.registered number hnumber with hnumber | hnew
    · exact (hfresh number hnumber hrest).undisturbed hundisturbed
    · exact hnew

/-- A tour goes on through a change beside the answers. -/
theorem alike (h : Visits start pass rest engine) (halike : Alike engine after) :
    Visits start pass rest after :=
  h.undisturbed (h.sweeps.alike halike) (halike.settles.quiet h.sweeps.sweeping)

/-- Telling a listener is a call that the contract allows. -/
theorem tells (h : Visits start pass rest engine) (number : Nat) (event : ChangeEvent)
    (listener : Listener) :
    Calls agreement (callbackFor number event listener) (Visits start pass rest)
      (engine.noteTold number event listener) := by
  have hnoted := h.alike (Alike.noteTold number event listener engine)
  refine ⟨hnoted.sweeps.valid, trivial, ?_⟩
  intro after hvalid hstep
  exact hnoted.undisturbed (hnoted.sweeps.listened hvalid hstep)
    (hstep.quiet hnoted.sweeps.sweeping)

/-- A handle that was visited is fresh. -/
theorem visited {number : Nat} (h : Visits start pass (number :: rest) engine)
    (hvisited : pass.size = engine.size → pass.host = engine.preferences →
      number ∈ engine.registered → engine.IsFresh number) : Visits start pass rest engine := by
  refine ⟨h.sweeps, ?_⟩
  intro hquiet
  obtain ⟨hsize, hhost, hfresh⟩ := h.quiet hquiet
  refine ⟨hsize, hhost, ?_⟩
  intro other hother hrest
  by_cases hsame : other = number
  · subst hsame
    exact hvisited hsize hhost hother
  · apply hfresh other hother
    rw [List.mem_cons, not_or]
    exact ⟨hsame, hrest⟩

end Visits

/-- The change of an answer makes its handle fresh and leaves the others as they are. -/
theorem Visits.changeAnswer {start engine : Engine} {pass : Pass} {number : Nat} {rest : List Nat}
    {handle : Handle} {query : Query} {isMatch : Bool}
    (h : Visits start pass (number :: rest) engine)
    (hhandle : engine.handle? number = some handle) (hquery : handle.query = some query)
    (hanswer : query.evaluate (engine.surroundings pass.size pass.host) = .ok isMatch) :
    Visits start pass rest (engine.changeAnswer number isMatch) := by
  have hgrounded := h.sweeps.grounded.changeAnswer hhandle (by simp [hquery]) isMatch
  refine ⟨⟨hgrounded, h.sweeps.sweeping, h.sweeps.host, h.sweeps.start⟩, ?_⟩
  intro hquiet
  obtain ⟨hsize, hhost, hfresh⟩ := h.quiet hquiet
  refine ⟨hsize, hhost, ?_⟩
  intro other hother hrest
  have hlookup : (engine.changeAnswer number isMatch).handle? other =
      if number = other then (engine.handle? other).map ({ · with isMatch })
      else engine.handle? other := by
    rw [Engine.changeAnswer, handle?_note, handle?_changeHandle]
  by_cases hsame : number = other
  · subst hsame
    rw [if_pos rfl, hhandle] at hlookup
    refine ⟨_, hlookup, ?_⟩
    intro same hsome
    have hqueries : some query = some same := hquery.symm.trans hsome
    cases hqueries
    rw [hsize, hhost] at hanswer
    exact hanswer
  · have hvisited : other ∉ number :: rest := by
      rw [List.mem_cons, not_or]
      exact ⟨Ne.symm hsame, hrest⟩
    obtain ⟨kept, hkept, hkeptAnswer⟩ := hfresh other hother hvisited
    rw [if_neg hsame] at hlookup
    exact ⟨kept, hlookup.trans hkept, hkeptAnswer⟩

/-- The outline of a sweep that starts in a grounded state, whatever size and overrides it
finds. -/
def freshOutline (reason : SweepReason) {start : Engine} (hstart : start.IsGrounded) :
    SweepOutline agreement reason start.followUps
      (fun entry => entry.IsGrounded ∧ entry.isSweeping = start.isSweeping ∧
        entry.host = start.host ∧ entry.followUps = start.followUps)
      (fun _ after => agreement.Valid after ∧ agreement.Step start after) where
  between _ := Sweeps start
  visiting := Visits start
  opening pass rest _ _ := Visits start pass rest
  telling pass rest _ _ _ := Visits start pass rest
  passed _ engine := Sweeps start engine ∧ (engine.IsQuiet → engine.IsSettled)
  finished engine := Sweeps start engine ∧ engine.IsDone
  broken _ := False
  visiting_allowsErrors _ _ _ h := h.alike (Alike.note _ _)
  opening_allowsErrors _ _ _ h := h.alike (Alike.note _ _)
  telling_allowsErrors _ _ _ h := h.alike (Alike.note _ _)
  passed_allowsErrors := by
    intro number engine record _ hpassed
    obtain ⟨hsweeps, hsettled⟩ := hpassed
    have halike := Alike.note (.record record) engine
    refine ⟨hsweeps.alike halike, ?_⟩
    intro hquiet number hnumber
    exact (hsettled hquiet number hnumber).undisturbed halike.undisturbed
  joins := by
    intro engine hentry hsweeping
    obtain ⟨hgrounded, hsame, hhost, -⟩ := hentry
    refine ⟨⟨hgrounded.of_same rfl, ?_⟩, Settles.of_not_quiet hsame hhost ?_⟩
    · intro hnot
      exact absurd (hsweeping.symm.trans hnot) (by simp)
    · intro hquiet
      cases hquiet.1
  begins := by
    intro engine hentry hnot
    obtain ⟨hgrounded, hsame, hhost, hlimit⟩ := hentry
    exact ⟨hlimit, hgrounded.of_same rfl, rfl, hhost, hsame.symm.trans hnot⟩
  unreadable h hsize := by
    rw [h.grounded.providedSize] at hsize
    cases hsize
  misread h hsize hnone := by
    rw [h.grounded.providedSize] at hsize
    cases hsize
    exact hnone _ _ rfl
  reads := by
    intro count engine width height h hsize
    rw [h.grounded.providedSize] at hsize
    cases hsize
    refine ⟨⟨h.grounded.of_same rfl, h.sweeping, h.host, h.start⟩, ?_⟩
    intro _
    exact ⟨rfl, rfl, fun number hnumber hrest => absurd hnumber hrest⟩
  skips := by
    intro pass number rest engine h hskip
    apply h.visited
    intro hsize hhost hregistered
    obtain ⟨⟨media, other⟩, hentry, rfl⟩ := List.mem_map.1 hregistered
    obtain ⟨handle, hhandle, -⟩ := h.sweeps.grounded.registry media other hentry
    refine ⟨handle, hhandle, ?_⟩
    intro query hquery
    rw [← hsize, ← hhost]
    exact hskip handle query hhandle hquery (h.sweeps.grounded.attached other handle hhandle)
  fails := by
    intro pass number rest engine handle query fault h hhandle hquery hfault
    obtain ⟨isMatch, hanswer⟩ := h.sweeps.grounded.evaluate_isOk hhandle hquery
      (engine.surroundings pass.size pass.host)
    rw [hanswer] at hfault
    cases hfault
  changes h hhandle hquery _ hanswer _ := h.changeAnswer hhandle hquery hanswer
  opens h _ _ := h.tells _ _ _
  lists h := h
  tells h := h.tells _ _ _
  closes h := h.alike (Alike.note _ _)
  ends := by
    intro pass engine h
    refine ⟨h.sweeps, ?_⟩
    intro hquiet number hnumber
    exact (h.quiet hquiet).2.2 number hnumber List.not_mem_nil
  rests := by
    intro count engine hpassed hrequested
    obtain ⟨hsweeps, hsettled⟩ := hpassed
    refine ⟨hsweeps, ?_⟩
    cases hpending : engine.pacer.isPending with
    | true => exact .inr (.inl hpending)
    | false => exact .inr (.inr (hsettled ⟨hrequested, hpending⟩))
  follows h _ _ _ := h.1
  givesUp := by
    intro count engine bound hpassed _ _ _
    obtain ⟨hsweeps, -⟩ := hpassed
    refine ⟨⟨hsweeps.grounded.of_same rfl, hsweeps.sweeping, hsweeps.host, hsweeps.start⟩, ?_⟩
    exact .inl ⟨reason, count, List.mem_cons_self⟩
  stalls := by
    intro count engine _ _ hlimit
    obtain ⟨bound, hbound⟩ := hstart.followUps
    rw [hbound] at hlimit
    cases hlimit
  closesFinished h := h.1.ended h.2
  closesBroken _ h := h.elim

/-! ## Requests -/

/-- A request that leaves the host's side as it is, and the engine alive. -/
def Request.IsOrdinary : Request → Prop
  | .destroy | .setHost _ | .failSize _ | .failUnobserve _ | .setRawSize _ => False
  | _ => True

/-- An ordinary request that calls no one sets a size, or makes a change beside the answers. -/
theorem Request.IsOrdinary.change_cases {request : Request} {change : Engine → Engine}
    (h : request.IsOrdinary) (hchange : request.change? = some change) :
    (∃ width height, change = (·.resize width height)) ∨ ∀ engine, Alike engine (change engine) := by
  cases request with
  | addListener number listener =>
    cases hchange
    exact .inr (Alike.listen number listener)
  | removeListener number listener =>
    cases hchange
    exact .inr (Alike.unlisten number listener)
  | addEventListener number type listener =>
    cases hchange
    right
    intro engine
    simp only [listenTo]
    split
    · exact Alike.listen number listener engine
    · exact Alike.refl engine
  | removeEventListener number type listener =>
    cases hchange
    right
    intro engine
    simp only [unlistenTo]
    split
    · exact Alike.unlisten number listener engine
    · exact Alike.refl engine
  | setOnChange number listener =>
    cases hchange
    exact .inr (Alike.changeHandle ({ · with onChange := listener }) (fun _ => rfl) number)
  | unbind binding =>
    cases hchange
    exact .inr (Alike.unbind binding)
  | setSize width height =>
    cases hchange
    exact .inl ⟨width, height, rfl⟩
  | setRoom room =>
    cases hchange
    exact .inr (Alike.setRoom room)
  | destroy | setHost _ | failSize _ | failUnobserve _ | setRawSize _ => exact h.elim
  | matchMedia _ | bind _ _ | flush _ | setOverrides _ => cases hchange

/-- Asking for a query is an operation that the contract allows. -/
theorem keeps_matchMedia_agreement (query : Value) {start engine : Engine}
    (hvalid : agreement.Valid engine) (hstep : agreement.Step start engine) :
    (matchMedia query engine).Keeps agreement fun _ after =>
      agreement.Valid after ∧ agreement.Step start after := by
  apply keeps_matchMedia
  · exact fun _ => ⟨hvalid, hstep⟩
  · exact fun _ _ => ⟨hvalid, hstep⟩
  · intro tree after _ hrecalls
    obtain ⟨hafter, hread⟩ := (Alike.recalls hrecalls).agreement hvalid
    exact ⟨hafter, hstep.trans hread⟩
  · intro tree after isMatch _ hrecalls hfirst
    obtain ⟨hafter, hread⟩ := (Alike.recalls hrecalls).agreement hvalid
    obtain ⟨hmade, hregistered⟩ :=
      agreement_register hafter (hvalid.1.tree hrecalls) hfirst
    exact ⟨hmade, (hstep.trans hread).trans hregistered⟩

/-- Delivering a value is a call that the contract allows. -/
theorem calls_deliver_agreement {start engine : Engine} (callback : Callback)
    (hvalid : agreement.Valid engine) (hstep : agreement.Step start engine) :
    Calls agreement callback (fun after => agreement.Valid after ∧ agreement.Step start after)
      (engine.note (.called callback)) := by
  obtain ⟨hnoted, hlater⟩ := (Alike.note (.called callback) engine).agreement hvalid
  refine ⟨hnoted, trivial, ?_⟩
  intro after hafter hcalled
  exact ⟨hafter, (hstep.trans hlater).trans hcalled⟩

/-- Binding a query is an operation that the contract allows. -/
theorem honours_bind_agreement (query : Value) (receiver : Text) :
    Operation.Honours agreement (bind query receiver) := by
  intro engine hvalid
  obtain ⟨hadded, hstep⟩ := (Alike.addBinding receiver engine).agreement hvalid
  refine keeps_bindQuery
    (fun _ after => agreement.Valid after ∧ agreement.Step engine after)
    (fun after => agreement.Valid after ∧ agreement.Step engine after)
    (keeps_matchMedia_agreement query hadded hstep) ?_ ?_ ?_ ?_ ?_
  · intro fault records after hknown
    obtain ⟨hafter, hasked⟩ := hknown
    obtain ⟨hnoted, hlater⟩ := (Alike.noteRecords records after).agreement hafter
    exact calls_deliver_agreement _ hnoted (hasked.trans hlater)
  · intro number after hknown isMatch _
    obtain ⟨hafter, hasked⟩ := hknown
    exact calls_deliver_agreement _ hafter hasked
  · exact fun _ _ h => h
  · exact fun _ _ _ h => h
  · intro number after hlistening
    obtain ⟨hafter, hdelivered⟩ := hlistening
    obtain ⟨hlistens, hlater⟩ :=
      (Alike.listen number (some (.bound engine.bindings.length receiver)) after).agreement hafter
    obtain ⟨hjoined, hlast⟩ := (Alike.joinBinding engine.bindings.length number _).agreement hlistens
    exact ⟨hjoined, (hdelivered.trans hlater).trans hlast⟩

/-- A new size leaves a frame pending, so there is nothing to be fresh for yet. -/
theorem admits_resize (width height : Extent) : agreement.Admits (·.resize width height) := by
  intro engine hvalid
  obtain ⟨hgrounded, -⟩ := hvalid
  obtain ⟨pacer, hresize, hframe⟩ := engine.resize_eq width height
  have hpending := hframe hgrounded.observing hgrounded.observers
  have hafter := hgrounded.resize width height
  simp only [hresize] at hafter ⊢
  refine ⟨⟨hafter, fun _ => .inr (.inl hpending)⟩, Settles.of_not_quiet rfl rfl ?_⟩
  intro hquiet
  exact absurd (hpending.symm.trans hquiet.2) (by simp)

/-- Every ordinary request keeps the contract about the freshness of answers. -/
theorem requestRules_agreement : RequestRules agreement Request.IsOrdinary where
  asks query engine hvalid := keeps_matchMedia_agreement query hvalid (agreement.refl engine)
  binds := honours_bind_agreement
  takesDue limit engine hvalid := (Alike.takeDue limit engine).agreement hvalid
  startsFrame engine hvalid _ :=
    (freshOutline .resize hvalid.1).keeps_sweep ⟨hvalid.1.of_same rfl, rfl, rfl, rfl⟩
  refuses values engine hvalid := (Alike.noteRecords _ engine).agreement hvalid
  replaces values engine hvalid :=
    (freshOutline .overrides hvalid.1).keeps_sweep ⟨hvalid.1.of_same rfl, rfl, rfl, rfl⟩
  changes := by
    intro request change hordinary hchange engine hvalid
    rcases hordinary.change_cases hchange with ⟨width, height, rfl⟩ | halike
    · exact admits_resize width height engine hvalid
    · exact (halike engine).agreement hvalid

/-- A new engine with a readable size is grounded, and has nothing to be fresh. -/
theorem agreement_create {options : EngineOptions} {limit : Int}
    (hlimit : options.followUps = .atMost limit) (hsize : options.sizeFails = false) :
    agreement.Valid (create options) := by
  refine ⟨⟨⟨limit, hlimit⟩, hsize, rfl, rfl, ?_, ?_, ?_, ?_, ?_, ?_⟩, fun _ => .inr (.inr ?_)⟩
  · exact List.cons_ne_nil _ _
  · intro media tree hparsed
    cases hparsed
  · intro number handle hhandle
    cases hhandle
  · intro number handle hhandle
    cases hhandle
  · intro number handle hhandle
    cases hhandle
  · intro media number hregistered
    cases hregistered
  · intro number hnumber
    cases hnumber

/-- Whatever the host and its listeners ask for in whatever order and nesting, and however the
listeners fail: once no operation is under way and no frame is pending, and no sweep was ever
broken off, each registered handle answers what its query evaluates to for the present size, the
present overrides and the host's preferences, and a handle whose query cannot be read answers
no. -/
theorem registered_agree_at_rest (options : EngineOptions) {limit : Int}
    (hlimit : options.followUps = .atMost limit) (hsize : options.sizeFails = false)
    (moves : List (Move Request (Except Fault Unit)))
    (hmoves : ∀ move ∈ moves, move.Begins Request.IsOrdinary)
    (hidle : (sessionAfter options moves).isIdle = true)
    (hframe : (sessionAfter options moves).state.pacer.isPending = false)
    (hwarned : ¬ (sessionAfter options moves).state.HasWarned) :
    let engine := (sessionAfter options moves).state
    ∀ media number, (media, number) ∈ engine.registry.entries →
      ∃ handle, engine.handle? number = some handle ∧ handle.media = media ∧
        Query.ReadsAs media handle.query ∧
        match handle.query with
        | some query =>
          query.evaluate ⟨engine.viewport.width, engine.viewport.height,
            Overrides.toValues engine.overrides, (create options).preferences⟩ = .ok handle.isMatch
        | none => handle.isMatch = false := by
  intro engine media number hregistered
  have hobeys : (sessionAfter options moves).Obeys agreement (create options) :=
    requestRules_agreement.obeys (agreement_create hlimit hsize) hmoves
  have hstep := hobeys.step_of_isIdle hidle
  obtain ⟨hgrounded, hdone⟩ := hobeys.valid
  have hpreferences : engine.preferences = (create options).preferences := by
    rw [preferences, preferences, hstep.host]
  have hsettled : engine.IsSettled := by
    rcases hdone hstep.sweeping with hbroken | hpending | hsettled
    · exact absurd hbroken hwarned
    · exact absurd (hframe.symm.trans hpending) (by simp)
    · exact hsettled
  obtain ⟨handle, hhandle, hmedia⟩ := hgrounded.registry media number hregistered
  obtain ⟨same, hsame, hfresh⟩ := hsettled number (List.mem_map.2 ⟨_, hregistered, rfl⟩)
  have hhandles : some handle = some same := hhandle.symm.trans hsame
  cases hhandles
  refine ⟨handle, hhandle, hmedia, hmedia ▸ hgrounded.query number handle hhandle, ?_⟩
  cases hquery : handle.query with
  | none => exact hgrounded.unread number handle hhandle hquery
  | some query =>
    have hanswer := hfresh query hquery
    rw [surroundings, hpreferences] at hanswer
    exact hanswer

/-- An engine that has written no warning has broken off no sweep. -/
theorem not_hasWarned_of_records {engine : Engine}
    (h : ∀ record ∈ engine.records, record.level ≠ .warning) : ¬ engine.HasWarned := by
  intro hwarning
  obtain ⟨reason, passes, hwarned⟩ := hwarning
  refine h (followUpWarning reason passes) ?_ rfl
  exact List.mem_filterMap.2 ⟨_, List.mem_reverse.2 hwarned, rfl⟩

/-- A listener takes back the override that it is told of, and then fails. -/
def flickerMoves : List (Move Request (Except Fault Unit)) :=
  [.begin (.matchMedia (.text "(hover: none)")), .begin (.addListener 0 (some (.named "f"))),
    .begin (.setOverrides ⟨[("hover", .text "none")]⟩), .begin (.setOverrides {}),
    .answer (.error (.raised "boom")), .answer (.ok ())]

/-- After the further pass that the listener asks for, the handle agrees again. -/
theorem flicker_agrees_at_rest :
    (∀ move ∈ flickerMoves, move.Begins Request.IsOrdinary) ∧
      (sessionAfter plainOptions flickerMoves).isIdle = true ∧
      (sessionAfter plainOptions flickerMoves).state.pacer.isPending = false ∧
      ¬ (sessionAfter plainOptions flickerMoves).state.HasWarned ∧
      let engine := (sessionAfter plainOptions flickerMoves).state
      ∃ handle, engine.handle? 0 = some handle ∧ handle.media = "(hover: none)" ∧
        Query.ReadsAs "(hover: none)" handle.query ∧
        match handle.query with
        | some query =>
          query.evaluate ⟨engine.viewport.width, engine.viewport.height,
            Overrides.toValues engine.overrides, (create plainOptions).preferences⟩ =
              .ok handle.isMatch
        | none => handle.isMatch = false := by
  have hmoves : ∀ move ∈ flickerMoves, move.Begins Request.IsOrdinary := by
    simp [flickerMoves, Move.Begins, Request.IsOrdinary]
  have hidle : (sessionAfter plainOptions flickerMoves).isIdle = true := by decide +kernel
  have hframe : (sessionAfter plainOptions flickerMoves).state.pacer.isPending = false := by
    decide +kernel
  have hrecords : ∀ record ∈ (sessionAfter plainOptions flickerMoves).state.records,
      record.level ≠ .warning := by decide +kernel
  have hregistered : (Text.ofString "(hover: none)", 0) ∈
      (sessionAfter plainOptions flickerMoves).state.registry.entries := by decide +kernel
  have hwarned := not_hasWarned_of_records hrecords
  exact ⟨hmoves, hidle, hframe, hwarned, registered_agree_at_rest plainOptions rfl rfl flickerMoves
    hmoves hidle hframe hwarned "(hover: none)" 0 hregistered⟩

end Breakpoint.Engine
