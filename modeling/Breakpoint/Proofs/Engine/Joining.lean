import Breakpoint.Proofs.Engine.Synchrony

/-!
# Making a binding

A binding is given the answer of its handle before it listens to it. A receiver that makes the
engine change the answer in between is not told of the change. Everything else that the host
does keeps the binding in sync, so a binding that does not know the answer of its handle joined
it after such a change, and the answer has not changed since.
-/

namespace Breakpoint.Engine

open Journal

variable {binding : Nat}

/-- A sweep keeps a binding in sync. -/
theorem keeps_sweep_synchrony (reason : SweepReason) {start entry : Engine}
    (hvalid : (synchrony binding).Valid start) (haloof : Aloof binding start entry)
    (hlimit : entry.followUps = start.followUps) :
    (sweep reason entry).Keeps (synchrony binding) fun _ after =>
      (synchrony binding).Valid after ∧ (synchrony binding).Step start after := by
  obtain ⟨hentry, hstep⟩ := haloof.synchrony hvalid
  exact (trackOutline binding reason start).keeps_sweep ⟨hentry, hstep, hlimit⟩

/-- A new handle is not about a binding. -/
theorem register_synchrony {engine : Engine} (hvalid : (synchrony binding).Valid engine)
    (media : Text) (tree : Option Query) (isMatch : Bool) :
    (synchrony binding).Valid (engine.register { media, query := tree, isMatch }) ∧
      (synchrony binding).Step engine (engine.register { media, query := tree, isMatch }) := by
  obtain ⟨⟨hfaithful, hclosed⟩, htracks⟩ := hvalid
  have hdeliveries : deliveries binding (engine.register { media, query := tree, isMatch }).journal =
      deliveries binding engine.journal := deliveries_cons (by simp)
  refine ⟨⟨⟨hfaithful.register _, hclosed⟩, htracks.register media tree isMatch⟩, ?_⟩
  refine ⟨Lasts.register engine _, by simp, fun _ h => h, fun _ _ _ => hdeliveries, ?_⟩
  intro _ hapart receiver number hjoined
  exact absurd hjoined (hapart receiver number)

/-- Asking for a query gives a handle that is there, and is not about a binding. -/
theorem keeps_matchMedia_synchrony (query : Value) {start engine : Engine}
    (hvalid : (synchrony binding).Valid engine) (hstep : (synchrony binding).Step start engine) :
    (matchMedia query engine).Keeps (synchrony binding) fun outcome after =>
      ((synchrony binding).Valid after ∧ (synchrony binding).Step start after) ∧
        after.bindings = engine.bindings ∧
          ∀ number, outcome = .ok number → number < after.handles.length := by
  have hread : ∀ tree after, engine.Recalls query.display tree after →
      ((synchrony binding).Valid after ∧ (synchrony binding).Step start after) ∧
        after.bindings = engine.bindings := by
    intro tree after hrecalls
    obtain ⟨hafter, hrest⟩ := (Aloof.recalls hrecalls).synchrony hvalid
    exact ⟨⟨hafter, hstep.trans hrest⟩, hrecalls.bindings⟩
  apply keeps_matchMedia
  · exact fun fault => ⟨⟨hvalid, hstep⟩, rfl, by simp⟩
  · intro number hregistered
    refine ⟨⟨hvalid, hstep⟩, rfl, ?_⟩
    intro found hfound
    cases hfound
    obtain ⟨handle, hhandle⟩ := hvalid.2.registered number
      (List.mem_map.2 ⟨_, Dict.mem_of_get? hregistered, rfl⟩)
    exact (List.getElem?_eq_some_iff.1 hhandle).1
  · intro tree after fault hrecalls
    obtain ⟨hafter, hbindings⟩ := hread tree after hrecalls
    exact ⟨hafter, hbindings, by simp⟩
  · intro tree after isMatch _ hrecalls _
    obtain ⟨⟨hafter, hrest⟩, hbindings⟩ := hread tree after hrecalls
    obtain ⟨hmade, hregistered⟩ := register_synchrony hafter query.display tree isMatch
    refine ⟨⟨hmade, hrest.trans hregistered⟩, hbindings, ?_⟩
    intro number hnumber
    cases hnumber
    show _ < (after.handles ++ [_]).length
    simp

/-- A delivery to another binding is a call that the contract allows. -/
theorem calls_deliver_other {start engine : Engine} {other : Nat} (hother : other ≠ binding)
    (hvalid : (synchrony binding).Valid engine) (hstep : (synchrony binding).Step start engine)
    (receiver : Text) (isMatch : Bool) :
    Calls (synchrony binding) (.deliver other receiver isMatch)
      (fun after => (synchrony binding).Valid after ∧ (synchrony binding).Step start after)
      (engine.note (.called (.deliver other receiver isMatch))) := by
  have haloof : Aloof binding engine (engine.note (.called (.deliver other receiver isMatch))) :=
    Aloof.note (.called (.deliver other receiver isMatch)) hother engine
  obtain ⟨hnoted, hlater⟩ := haloof.synchrony hvalid
  refine ⟨hnoted, trivial, ?_⟩
  intro after hafter hcalled
  exact ⟨hafter, (hstep.trans hlater).trans hcalled⟩

/-- Making another binding keeps the contract. -/
theorem keeps_bind_other (query : Value) (receiver : Text) {engine : Engine}
    (hother : engine.bindings.length ≠ binding) (hvalid : (synchrony binding).Valid engine) :
    (bind query receiver engine).Keeps (synchrony binding) fun _ after =>
      (synchrony binding).Valid after ∧ (synchrony binding).Step engine after := by
  obtain ⟨hadded, hstep⟩ := (Aloof.addBinding hother receiver).synchrony hvalid
  apply keeps_bindQuery
    (fun _ after => (synchrony binding).Valid after ∧ (synchrony binding).Step engine after)
    (fun after => (synchrony binding).Valid after ∧ (synchrony binding).Step engine after)
    (keeps_matchMedia_synchrony query hadded hstep)
  · intro fault records after hasked
    obtain ⟨⟨hafter, hrest⟩, -⟩ := hasked
    obtain ⟨hnoted, hlater⟩ := (Aloof.noteRecords records after).synchrony hafter
    exact calls_deliver_other hother hnoted (hrest.trans hlater) receiver false
  · intro number after hasked isMatch _
    obtain ⟨⟨hafter, hrest⟩, -⟩ := hasked
    exact calls_deliver_other hother hafter hrest receiver isMatch
  · exact fun _ _ h => h
  · exact fun _ _ _ h => h
  · intro number after h
    obtain ⟨hafter, hrest⟩ := h
    have hlisten : Aloof binding after
        (after.listen number (some (.bound engine.bindings.length receiver))) := by
      apply Aloof.listen
      intro same hsame
      cases hsame
      exact hother rfl
    have haloof := hlisten.trans (Aloof.joinBinding hother number _)
    obtain ⟨hjoined, hlater⟩ := haloof.synchrony hafter
    exact ⟨hjoined, hrest.trans hlater⟩

/-! ## The binding itself -/

/-- A binding that is there and listens to no handle has not joined any. -/
theorem Tracks.unjoined {engine : Engine} (h : Tracks binding engine)
    (hapart : ∀ receiver number, engine.bindings[binding]? ≠ some ⟨receiver, some number⟩)
    (number : Nat) : .bindingJoined binding number ∉ engine.journal := by
  intro hjoined
  obtain ⟨receiver, hbinding⟩ := h.joined number hjoined
  exact hapart receiver number hbinding

/-- The binding is made, and listens to no handle yet. -/
theorem Tracks.addBinding {engine : Engine} (h : Tracks engine.bindings.length engine)
    (receiver : Text) : Tracks engine.bindings.length (engine.addBinding receiver) := by
  have hnone : engine.bindings[engine.bindings.length]? = none :=
    List.getElem?_eq_none (Nat.le_refl _)
  have hadded : (engine.addBinding receiver).bindings[engine.bindings.length]? =
      some { receiver } := List.getElem?_concat_length
  refine ⟨?_, ?_, ?_, h.slot, h.accounts, h.registered⟩
  · intro number hjoined
    refine absurd hjoined (h.unjoined ?_ number)
    simp
  · intro other number hbinding
    rw [hadded] at hbinding
    cases hbinding
  · intro number handle other hhandle
    rw [h.listens number handle other hhandle, hadded, hnone]
    simp

/-- An entry about the binding itself, before it has joined a handle. -/
theorem Tracks.noteUnjoined {engine : Engine} (h : Tracks binding engine)
    (hapart : ∀ receiver number, engine.bindings[binding]? ≠ some ⟨receiver, some number⟩)
    {entry : Entry} (hentry : ∀ number, entry ≠ .bindingJoined binding number) :
    Tracks binding (engine.note entry) := by
  refine h.of_journal rfl rfl rfl ?_ ?_
  · intro number hjoined
    exact List.mem_of_ne_of_mem (hentry number).symm hjoined
  · apply Accounts.cons hentry
    intro recent number older isMatch hsplit _
    refine absurd ?_ (h.unjoined hapart number)
    rw [hsplit]
    exact List.mem_append_right _ List.mem_cons_self

/-- The binding listens to the handle that it joins, and to no other. -/
theorem Tracks.listens_join {engine : Engine} {receiver : Text} {number : Nat}
    (h : Tracks binding engine) (hbinding : engine.bindings[binding]? = some { receiver })
    {other : Nat} {handle : Handle} (listening : Text)
    (hhandle : (engine.listen number (some (.bound binding receiver))).handle? other =
      some handle) :
    .bound binding listening ∈ handle.listeners ↔ listening = receiver ∧ other = number := by
  have hunlistened : ∀ earlier receiver, engine.handle? other = some earlier →
      .bound binding receiver ∉ earlier.listeners := by
    intro earlier receiver hearlier hmember
    have hjoined := (h.listens other earlier receiver hearlier).1 hmember
    rw [hbinding] at hjoined
    cases hjoined
  rw [Engine.listen, handle?_changeHandle] at hhandle
  split at hhandle
  · next hsame =>
    obtain ⟨earlier, hearlier, rfl⟩ := Option.map_eq_some_iff.1 hhandle
    have hfresh := fun receiver => hunlistened earlier receiver hearlier
    rw [Handle.addListener, if_neg (hfresh receiver), List.mem_append, List.mem_singleton]
    simp [hfresh, hsame]
  · next hother =>
    simp [hunlistened handle listening hhandle, Ne.symm hother]

/-- To listen leaves the slot of every handle alone. -/
theorem onChange_listen {engine : Engine} {number other : Nat} {listener : Listener}
    {handle : Handle} (hhandle : (engine.listen number (some listener)).handle? other = some handle) :
    ∃ earlier, engine.handle? other = some earlier ∧ handle.onChange = earlier.onChange := by
  rw [Engine.listen, handle?_changeHandle] at hhandle
  split at hhandle
  · obtain ⟨earlier, hearlier, rfl⟩ := Option.map_eq_some_iff.1 hhandle
    refine ⟨earlier, hearlier, ?_⟩
    rw [Handle.addListener]
    split <;> rfl
  · exact ⟨handle, hhandle, rfl⟩

/-- The binding joins a handle whose answer is on record. It knows the answer if a sweep is under
way. -/
theorem Tracks.join {engine : Engine} {receiver : Text} {number : Nat}
    (h : Tracks binding engine) (hbinding : engine.bindings[binding]? = some { receiver })
    {handle : Handle} (hhandle : engine.handle? number = some handle)
    (hanswer : (answers number engine.journal).head? = some handle.isMatch)
    (hinside : openDispatch engine.journal = some number →
      (deliveries binding engine.journal).head? = some handle.isMatch) :
    Tracks binding
      ((engine.listen number (some (.bound binding receiver))).joinBinding binding number) := by
  have hapart : ∀ receiver number, engine.bindings[binding]? ≠ some ⟨receiver, some number⟩ := by
    simp [hbinding]
  have hjoined : ((engine.listen number (some (.bound binding receiver))).joinBinding binding
      number).bindings[binding]? = some ⟨receiver, some number⟩ := by
    show (engine.bindings.modify binding _)[binding]? = _
    rw [List.getElem?_modify_eq, hbinding]
    rfl
  have hunheard : Unheard engine
      ((engine.listen number (some (.bound binding receiver))).joinBinding binding number) :=
    (Unheard.listen number _ engine).trans (Unheard.joinBinding binding number _)
  constructor
  · intro other hmember
    rcases List.mem_cons.1 hmember with hentry | hold
    · cases hentry
      exact ⟨receiver, hjoined⟩
    · exact absurd hold (h.unjoined hapart other)
  · intro other joined hmade
    rw [hjoined] at hmade
    cases hmade
    exact exists_handle_of_grows hunheard.grows ⟨handle, hhandle⟩
  · intro other later listening hlater
    rw [h.listens_join hbinding listening hlater, hjoined]
    simp [eq_comm]
  · intro other later listening hlater hslot
    obtain ⟨earlier, hearlier, hsame⟩ := onChange_listen hlater
    exact h.slot other earlier listening hearlier (hsame.symm.trans hslot)
  · have hpresent : engine.present number = some handle.isMatch := by
      rw [present, hhandle, Option.map_some]
    apply Accounts.join (h.unjoined hapart)
    · rw [hunheard.present, hpresent]
      exact hanswer
    · rw [hunheard.present, hpresent]
      exact hinside
  · intro other hregistered
    exact exists_handle_of_grows hunheard.grows (h.registered other hregistered)

/-- The binding was made by an operation that began in `start`, and listens to no handle yet. -/
structure IsMade (binding : Nat) (receiver : Text) (start engine : Engine) : Prop where
  valid : (synchrony binding).Valid engine
  lasts : Lasts start engine
  grows : start.handles.length ≤ engine.handles.length
  binding : engine.bindings[binding]? = some { receiver }

namespace IsMade

variable {receiver : Text} {start engine after : Engine}

/-- What makes a binding owes it nothing until it joins a handle. -/
theorem follows (h : IsMade binding receiver start engine) (hnew : start.bindings[binding]? = none) :
    Follows binding start engine := by
  apply Follows.of_new hnew h.lasts h.grows
  intro _ other number hjoined
  rw [h.binding] at hjoined
  cases hjoined

/-- What the host does in between. -/
theorem listened (h : IsMade binding receiver start engine)
    (hvalid : (synchrony binding).Valid after) (hstep : (synchrony binding).Step engine after) :
    IsMade binding receiver start after where
  valid := hvalid
  lasts := h.lasts.trans hstep.lasts
  grows := h.grows.trans hstep.grows
  binding := hstep.kept _ h.binding

/-- The first delivery is a call that the contract allows, and the last one when the receiver has
ended. -/
theorem calls_deliver (h : IsMade binding receiver start engine) (isMatch : Bool) :
    Calls (synchrony binding) (.deliver binding receiver isMatch)
      (fun after => IsMade binding receiver start after ∧ Lasts engine after ∧
        engine.handles.length ≤ after.handles.length ∧
          (deliveries binding after.journal).head? = some isMatch)
      (engine.note (.called (.deliver binding receiver isMatch))) := by
  have hunheard : Unheard engine (engine.note (.called (.deliver binding receiver isMatch))) :=
    Unheard.note (.called _) trivial engine
  have htracks : Tracks binding (engine.note (.called (.deliver binding receiver isMatch))) := by
    apply h.valid.2.noteUnjoined
    · simp [h.binding]
    · simp
  have hnoted : IsMade binding receiver start
      (engine.note (.called (.deliver binding receiver isMatch))) :=
    ⟨⟨(hunheard.faithfulness h.valid.1).1, htracks⟩, h.lasts.trans (Lasts.unheard hunheard),
      h.grows, h.binding⟩
  refine ⟨hnoted.valid, trivial, ?_⟩
  intro after hafter hstep
  refine ⟨hnoted.listened hafter hstep, (Lasts.unheard hunheard).trans hstep.lasts, hstep.grows, ?_⟩
  rw [hstep.silent _ hnoted.binding (.inl rfl)]
  exact congrArg List.head? (deliveries_deliver receiver isMatch)

/-- The binding joins a handle. It is in sync already if a sweep is under way. -/
theorem joins {number : Nat} (h : IsMade binding receiver start engine)
    (hnew : start.bindings[binding]? = none) (hnumber : number < engine.handles.length)
    (hsync : engine.isSweeping = true → engine.IsInSync binding number) :
    (synchrony binding).Valid
        ((engine.listen number (some (.bound binding receiver))).joinBinding binding number) ∧
      (synchrony binding).Step start
        ((engine.listen number (some (.bound binding receiver))).joinBinding binding number) := by
  obtain ⟨⟨hfaithful, hclosed⟩, htracks⟩ := h.valid
  obtain ⟨handle, hhandle⟩ := exists_handle hnumber
  have hunheard : Unheard engine
      ((engine.listen number (some (.bound binding receiver))).joinBinding binding number) :=
    (Unheard.listen number _ engine).trans (Unheard.joinBinding binding number _)
  have hlasts := Lasts.unheard hunheard
  have hanswer : (answers number engine.journal).head? = some handle.isMatch := by
    have htells := hfaithful.tells number
    rw [present, hhandle] at htells
    exact htells.2.2
  have hinside : openDispatch engine.journal = some number →
      (deliveries binding engine.journal).head? = some handle.isMatch := by
    intro hopen
    have hsweeping : engine.isSweeping = true := by
      by_contra hnot
      rw [hclosed (Bool.eq_false_iff.2 hnot)] at hopen
      cases hopen
    obtain ⟨same, hsame, hdelivered⟩ := hsync hsweeping
    rw [hhandle] at hsame
    cases hsame
    exact hdelivered
  have hvalid := (hunheard.faithfulness h.valid.1).1
  refine ⟨⟨hvalid, htracks.join h.binding hhandle hanswer hinside⟩, ?_⟩
  apply Follows.of_new hnew (h.lasts.trans hlasts) (h.grows.trans hunheard.grows)
  intro hstart other joined hjoined
  have hsweeping : engine.isSweeping = true := h.lasts.sweeping.trans hstart
  have hsame : joined = number := by
    have hmade : (engine.bindings.modify binding ({ · with handle := some number }))[binding]? =
        some ⟨receiver, some number⟩ := by
      rw [List.getElem?_modify_eq, h.binding]
      rfl
    cases hmade.symm.trans hjoined
    rfl
  subst hsame
  exact (hsync hsweeping).lasts hlasts hsweeping (deliveries_cons (by simp))

end IsMade

/-- Making the binding itself keeps the contract. -/
theorem keeps_bind_own (query : Value) (receiver : Text) {engine : Engine}
    (hvalid : (synchrony engine.bindings.length).Valid engine) :
    (bind query receiver engine).Keeps (synchrony engine.bindings.length) fun _ after =>
      (synchrony engine.bindings.length).Valid after ∧
        (synchrony engine.bindings.length).Step engine after := by
  have hnew : engine.bindings[engine.bindings.length]? = none :=
    List.getElem?_eq_none (Nat.le_refl _)
  have hunheard := Unheard.addBinding receiver engine
  have hadded : (synchrony engine.bindings.length).Valid (engine.addBinding receiver) :=
    ⟨(hunheard.faithfulness hvalid.1).1, hvalid.2.addBinding receiver⟩
  have hmade : IsMade engine.bindings.length receiver engine (engine.addBinding receiver) :=
    ⟨hadded, Lasts.unheard hunheard, hunheard.grows, List.getElem?_concat_length⟩
  apply keeps_bindQuery
    (fun number after => IsMade engine.bindings.length receiver engine after ∧
      number < after.handles.length ∧
        (after.isSweeping = true → after.IsInSync engine.bindings.length number))
    (fun after => IsMade engine.bindings.length receiver engine after)
    (keeps_matchMedia_synchrony query hadded ((synchrony _).refl _))
  · intro fault records after hasked
    obtain ⟨⟨hafter, hstep⟩, -⟩ := hasked
    obtain ⟨hnoted, hlater⟩ := (Aloof.noteRecords records after).synchrony hafter
    obtain ⟨hcall, -, hended⟩ :=
      (hmade.listened hnoted (hstep.trans hlater)).calls_deliver false
    refine ⟨hcall, trivial, ?_⟩
    intro ended hendedValid hcalled
    exact (hended ended hendedValid hcalled).1
  · intro number after hasked isMatch hisMatch
    obtain ⟨⟨hafter, hstep⟩, -, hnumber⟩ := hasked
    have hthere := hnumber number rfl
    obtain ⟨handle, hhandle⟩ := exists_handle hthere
    obtain ⟨hcall, -, hended⟩ := (hmade.listened hafter hstep).calls_deliver isMatch
    refine ⟨hcall, trivial, ?_⟩
    intro ended hendedValid hcalled
    obtain ⟨hstill, hlasts, hgrows, hdelivered⟩ := hended ended hendedValid hcalled
    refine ⟨hstill, Nat.lt_of_lt_of_le hthere hgrows, ?_⟩
    intro hsweeping
    have hevent := hlasts.events (hlasts.sweeping.symm.trans hsweeping) number handle hhandle
    obtain ⟨later, hlater, hsame⟩ := Option.map_eq_some_iff.1 hevent
    refine ⟨later, hlater, ?_⟩
    have hanswer : handle.isMatch = later.isMatch :=
      (congrArg ChangeEvent.isMatch hsame).symm
    rw [hdelivered, hisMatch, hhandle, Option.any_some, hanswer]
  · intro outcome after hdropped
    exact ⟨hdropped.valid, hdropped.follows hnew⟩
  · intro fault number after hlistening
    exact ⟨hlistening.1.valid, hlistening.1.follows hnew⟩
  · intro number after hlistening
    obtain ⟨hstill, hthere, hsync⟩ := hlistening
    exact hstill.joins hnew hthere hsync

/-- Every request keeps the contract about a binding if it leaves the listener of the binding
alone. -/
theorem requestRules_synchrony (binding : Nat) :
    RequestRules (synchrony binding) (Request.LeavesAlone binding) where
  asks query engine hvalid :=
    (keeps_matchMedia_synchrony query hvalid ((synchrony binding).refl engine)).imp
      fun _ _ h => h.1
  binds query receiver engine hvalid := by
    by_cases hown : engine.bindings.length = binding
    · subst hown
      exact keeps_bind_own query receiver hvalid
    · exact keeps_bind_other query receiver hown hvalid
  takesDue limit engine hvalid := (Aloof.takeDue limit engine).synchrony hvalid
  startsFrame engine hvalid _ :=
    keeps_sweep_synchrony .resize hvalid (Aloof.startFrame engine) rfl
  refuses values engine hvalid := (Aloof.noteRecords _ engine).synchrony hvalid
  replaces values engine hvalid :=
    keeps_sweep_synchrony .overrides hvalid (Aloof.replaceOverrides values engine) rfl
  changes hleaves hchange engine hvalid :=
    (Aloof.of_change hleaves hchange engine).synchrony hvalid

/-- Nothing was promised to a binding that was not made yet. -/
theorem synchrony_create (options : EngineOptions) (binding : Nat) :
    (synchrony binding).Valid (create options) := by
  have hgoes := goesOn_create options
  have hjournal : ∀ number, .bindingJoined binding number ∉ (create options).journal := by
    intro number hjoined
    obtain ⟨record, -, hrecord⟩ := List.mem_map.1 (List.mem_reverse.1 hjoined)
    cases hrecord
  refine ⟨⟨Faithful.create options, fun _ => hgoes.openDispatch⟩, ?_⟩
  constructor
  · intro number hjoined
    exact absurd hjoined (hjournal number)
  · intro receiver number hbinding
    cases hbinding
  · intro number handle receiver hhandle
    cases hhandle
  · intro number handle receiver hhandle
    cases hhandle
  · intro recent number older isMatch hsplit _
    refine absurd ?_ (hjournal number)
    rw [hsplit]
    exact List.mem_append_right _ List.mem_cons_self
  · intro number hnumber
    cases hnumber

/-- Whatever the host and its listeners do, in any order and nesting, as long as the binding is
not ended: a binding that joined a handle was last given the answer that the handle has now
exactly if it was last given the answer that the handle had when it joined, or the answer changed
since. Only a change between the first delivery and the joining leaves it behind. -/
theorem binding_inSync_iff (options : EngineOptions)
    (moves : List (Move Request (Except Fault Unit))) (binding number : Nat)
    (hmoves : ∀ move ∈ moves, move.Begins (Request.LeavesAlone binding))
    (hidle : (sessionAfter options moves).isIdle = true) (recent older : Journal)
    (hjoined : (sessionAfter options moves).state.journal =
      recent ++ .bindingJoined binding number :: older) :
    ∃ handle, (sessionAfter options moves).state.handle? number = some handle ∧
      ((deliveries binding (sessionAfter options moves).state.journal).head? = some handle.isMatch ↔
        (deliveries binding older).head? = (answers number older).head? ∨
          changes number recent ≠ []) := by
  have hobeys : (sessionAfter options moves).Obeys (synchrony binding) (create options) :=
    (requestRules_synchrony binding).obeys (synchrony_create options binding) hmoves
  obtain ⟨⟨-, hclosed⟩, htracks⟩ := hobeys.valid
  have hmember : .bindingJoined binding number ∈ (sessionAfter options moves).state.journal := by
    rw [hjoined]
    exact List.mem_append_right _ List.mem_cons_self
  obtain ⟨receiver, hbinding⟩ := htracks.joined number hmember
  obtain ⟨handle, hhandle⟩ := htracks.handle receiver number hbinding
  have hnone : openDispatch (sessionAfter options moves).state.journal = none :=
    hclosed (hobeys.step_of_isIdle hidle).lasts.sweeping
  have hpresent : (sessionAfter options moves).state.present number = some handle.isMatch := by
    rw [present, hhandle, Option.map_some]
  have hledger := htracks.accounts recent number older handle.isMatch hjoined hpresent
  refine ⟨handle, hhandle, hledger.inSync_iff ?_⟩
  simp [hnone]

/-- A receiver sets an override when it is given the first answer. -/
def hastyMoves : List (Move Request (Except Fault Unit)) :=
  [.begin (.bind (.text "(hover: none)") "b"),
    .begin (.setOverrides ⟨[("hover", .text "none")]⟩), .answer (.ok ())]

/-- The hasty receiver was given the answer that the handle has no longer when the binding joins. -/
theorem hasty_inSync_iff :
    (∀ move ∈ hastyMoves, move.Begins (Request.LeavesAlone 0)) ∧
      (sessionAfter plainOptions hastyMoves).isIdle = true ∧
      (sessionAfter plainOptions hastyMoves).state.journal =
        [] ++ .bindingJoined 0 0 :: (sessionAfter plainOptions hastyMoves).state.journal.tail ∧
      ∃ handle, (sessionAfter plainOptions hastyMoves).state.handle? 0 = some handle ∧
        ((deliveries 0 (sessionAfter plainOptions hastyMoves).state.journal).head? =
            some handle.isMatch ↔
          (deliveries 0 (sessionAfter plainOptions hastyMoves).state.journal.tail).head? =
              (answers 0 (sessionAfter plainOptions hastyMoves).state.journal.tail).head? ∨
            changes 0 [] ≠ []) := by
  have hmoves : ∀ move ∈ hastyMoves, move.Begins (Request.LeavesAlone 0) := by
    simp [hastyMoves, Move.Begins, Request.LeavesAlone]
  have hidle : (sessionAfter plainOptions hastyMoves).isIdle = true := by decide +kernel
  have hjoined : (sessionAfter plainOptions hastyMoves).state.journal =
      [] ++ .bindingJoined 0 0 :: (sessionAfter plainOptions hastyMoves).state.journal.tail := by
    decide +kernel
  exact ⟨hmoves, hidle, hjoined, binding_inSync_iff plainOptions hastyMoves 0 0 hmoves hidle []
    (sessionAfter plainOptions hastyMoves).state.journal.tail hjoined⟩

/-- Bindings do not stay in sync unconditionally, even if no receiver fails. -/
theorem hasty_receiver_left_behind :
    ¬ ∀ (options : EngineOptions) (moves : List (Move Request (Except Fault Unit)))
        (binding number : Nat), (∀ move ∈ moves, move.Begins (Request.LeavesAlone binding)) →
      (∀ fault, .answer (.error fault) ∉ moves) →
        (sessionAfter options moves).isIdle = true →
          .bindingJoined binding number ∈ (sessionAfter options moves).state.journal →
            (sessionAfter options moves).state.IsInSync binding number := by
  intro hall
  have hmoves : ∀ move ∈ hastyMoves, move.Begins (Request.LeavesAlone 0) := by
    simp [hastyMoves, Move.Begins, Request.LeavesAlone]
  have hanswers : ∀ fault, .answer (.error fault) ∉ hastyMoves := by simp [hastyMoves]
  have hidle : (sessionAfter plainOptions hastyMoves).isIdle = true := by decide +kernel
  have hjoined : .bindingJoined 0 0 ∈ (sessionAfter plainOptions hastyMoves).state.journal := by
    decide +kernel
  obtain ⟨handle, hhandle, hdelivered⟩ :=
    hall plainOptions hastyMoves 0 0 hmoves hanswers hidle hjoined
  have hanswer : ((sessionAfter plainOptions hastyMoves).state.handle? 0).map (·.isMatch) =
      some true := by decide +kernel
  have hlast : (deliveries 0 (sessionAfter plainOptions hastyMoves).state.journal).head? =
      some false := by decide +kernel
  rw [hlast] at hdelivered
  rw [hhandle, Option.map_some, ← hdelivered] at hanswer
  cases hanswer

end Breakpoint.Engine
