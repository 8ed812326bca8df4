import Breakpoint.Viewport
import Breakpoint.Proofs.Guarantee
import Mathlib.Data.List.Basic
import Mathlib.Data.List.Perm.Subperm

/-!
# Registrations of observers

To observe a viewport gives the client a function that ends the registration. The function knows the
observer, not the registration, and removes the first registration of that observer that it finds.
So of equal observers always the oldest goes, whichever function is called, and a function that is
called once more ends the registration of another client.

The registrations are those whose own function has not been called as long as each function is
called in its turn, and no longer. Nothing else is asked of the clients: they may observe, end
registrations and set sizes while they are called, and fail.
-/

namespace Breakpoint.Viewport

open Operation

variable {ω : Type}

/-! ## Clients -/

/-- The dealings of a viewport with its clients. -/
abbrev ViewportSession (ω : Type) :=
  Session (Request ω) (Viewport ω) ω (Except Fault Unit) Unit

/-- What a client does next. A registration is ended by the function that the observe call of that
number returned. -/
inductive Action (ω : Type) where
  | observe (observer : ω)
  | revoke (number : Nat)
  | setSize (width height : Extent)
  | reply (reply : Except Fault Unit)

/-- A viewport with the calls of its clients. -/
structure Roll (ω : Type) where
  session : ViewportSession ω
  /-- The observers of the observe calls, the first first. -/
  observed : List ω := []
  /-- The observe calls whose function has been called, by their numbers. -/
  revoked : List Nat := []
  /-- The observers of the calls of such functions that found the observer registered. -/
  removed : List ω := []

namespace Roll

/-- A viewport without clients. -/
def new (width height : Extent) : Roll ω := { session := { state := { width, height } } }

/-- The observe calls whose own function has not been called, with their numbers. -/
def standing (roll : Roll ω) : List (ω × Nat) :=
  roll.observed.zipIdx.filter fun registration => registration.2 ∉ roll.revoked

/-- An observe call stands until its own function is called. -/
theorem mem_standing {roll : Roll ω} {number : Nat} {observer : ω} :
    (observer, number) ∈ roll.standing ↔
      roll.observed[number]? = some observer ∧ number ∉ roll.revoked := by
  rw [standing, List.mem_filter, List.mk_mem_zipIdx_iff_getElem?, decide_eq_true_eq]

/-- The registrations stand in the order of the observe calls. -/
theorem pairwise_standing (roll : Roll ω) :
    roll.standing.Pairwise fun earlier later => earlier.2 < later.2 := by
  have hnumbers : (roll.observed.zipIdx.map (·.2)).Pairwise (· < ·) := by
    rw [List.zipIdx_map_snd]
    exact List.pairwise_lt_range' 1
  exact (List.pairwise_map.1 hnumbers).filter _

/-- Whether the registered observers are those of the observe calls whose own function has not been
called, in the order of these calls. -/
def Agrees (roll : Roll ω) : Prop := roll.session.state.observers = roll.standing.map (·.1)

/-- Whether it is the turn of the function that an observe call returned. Unless it was called
before, no other observer stands between its registration and the oldest one of the same observer.
If it was called before, no registration of its observer stands. -/
def IsInTurn (roll : Roll ω) (number : Nat) (observer : ω) : Prop :=
  if number ∈ roll.revoked then observer ∉ roll.standing.map (·.1)
  else ((roll.standing.filter (·.2 < number)).map (·.1)).Pairwise fun earlier later =>
    earlier = observer → later = observer

variable [DecidableEq ω]

/-- The viewport after an action. A function that has not been returned is not called. -/
def step (roll : Roll ω) : Action ω → Roll ω
  | .observe observer =>
    { roll with
      session := roll.session.step perform (.begin (.observe observer))
      observed := roll.observed ++ [observer] }
  | .revoke number =>
    match roll.observed[number]? with
    | none => roll
    | some observer =>
      { roll with
        session := roll.session.step perform (.begin (.unobserve observer))
        revoked := roll.revoked ++ [number]
        removed := if observer ∈ roll.session.state.observers then roll.removed ++ [observer]
          else roll.removed }
  | .setSize width height =>
    { roll with session := roll.session.step perform (.begin (.setSize width height)) }
  | .reply reply => { roll with session := roll.session.step perform (.answer reply) }

/-- The viewport after some actions. -/
def run (roll : Roll ω) (actions : List (Action ω)) : Roll ω := actions.foldl step roll

end Roll

/-! ## What moves the registrations -/

/-- While a size is set, the observers stay as they are. -/
def steadiness : Guarantee (Viewport ω) where
  Valid _ := True
  Step before after := after.observers = before.observers
  refl _ := rfl
  trans hfirst hsecond := hsecond.trans hfirst

/-- Setting the size keeps the observers as they are. -/
theorem upholds_setSize (width height : Extent) :
    (setSize width height : Operation (Viewport ω) ω (Except Fault Unit) Unit).Upholds steadiness :=
  (upholds_modify fun _ _ => ⟨trivial, rfl⟩).bind fun _ =>
    upholds_get.bind fun viewport => upholds_forAll upholds_callOrFail viewport.observers

variable [DecidableEq ω] {session : ViewportSession ω}

/-- To set a size does not touch the observers, whatever they do when they are called. -/
theorem upheld_begin_setSize (h : session.Upheld steadiness) (width height : Extent) :
    let after := session.step perform (.begin (.setSize width height))
    after.Upheld steadiness ∧ after.state.observers = session.state.observers := by
  have hnoted : (session.note (.begun (.setSize width height))).Upheld steadiness :=
    ⟨trivial, h.waits⟩
  exact Session.upheld_advance hnoted.waits (upholds_setSize width height session.state trivial)

/-- Nor does what is left of it when an observer has been called. -/
theorem upheld_answer (h : session.Upheld steadiness) (reply : Except Fault Unit) :
    let after := session.step perform (.answer reply)
    after.Upheld steadiness ∧ after.state.observers = session.state.observers := by
  obtain ⟨state, waiting, history⟩ := session
  cases waiting with
  | nil => exact ⟨h, rfl⟩
  | cons resume waiting =>
    have hwaits := List.forall_mem_cons.1 h.waits
    exact Session.upheld_advance hwaits.2 (hwaits.1 reply state trivial)

/-! ## The oldest registration goes -/

/-- To take members out of a list and to add one last makes no difference to one another, if all that
is taken out is there. -/
theorem diff_concat {observed removed : List ω} (h : removed.Subperm observed) (observer : ω) :
    (observed ++ [observer]).diff removed = observed.diff removed ++ [observer] := by
  induction removed generalizing observed with
  | nil => rfl
  | cons first removed ih =>
    have hmem : first ∈ observed := h.subset List.mem_cons_self
    have hrest : removed.Subperm (observed.erase first) := by
      have herased := h.erase first
      rwa [List.erase_cons_head] at herased
    rw [List.diff_cons, List.diff_cons, List.erase_append_left _ hmem, ih hrest]

/-- One more removal of what is left over is one of what was observed. -/
theorem subperm_concat {observed removed : List ω} {observer : ω} (h : removed.Subperm observed)
    (hmem : observer ∈ observed.diff removed) : (removed ++ [observer]).Subperm observed := by
  have hsplit : (removed ++ observed.diff removed).Perm observed :=
    List.subperm_append_diff_self_of_count_le fun member _ => h.count_le member
  exact ((List.subperm_append_left removed).2 (List.singleton_subperm_iff.2 hmem)).trans
    hsplit.subperm

omit [DecidableEq ω] in
/-- An element moved to the front leaves a list the same exactly if none but its equals stand before
it. -/
theorem append_cons_eq_cons_iff {before after : List ω} {observer : ω} :
    before ++ observer :: after = observer :: (before ++ after) ↔
      ∀ earlier ∈ before, earlier = observer := by
  induction before with
  | nil => simp
  | cons first before ih =>
    rw [List.cons_append, List.cons_append, List.cons.injEq, List.forall_mem_cons]
    refine and_congr_right fun hfirst => ?_
    rw [hfirst]
    exact ih

/-- To take one of equal members out of a list is to take out the first, exactly if nothing but
equal members stands in between. -/
theorem erase_append_cons_eq_iff {before after : List ω} {observer : ω} :
    (before ++ observer :: after).erase observer = before ++ after ↔
      before.Pairwise fun earlier later => earlier = observer → later = observer := by
  induction before with
  | nil => simp
  | cons first before ih =>
    rw [List.pairwise_cons]
    by_cases hfirst : first = observer
    · rw [hfirst, List.cons_append, List.erase_cons_head, List.cons_append, append_cons_eq_cons_iff]
      constructor
      · intro hequal
        refine ⟨fun later hlater _ => hequal later hlater, ?_⟩
        exact List.pairwise_of_forall_mem_list fun _ _ later hlater _ => hequal later hlater
      · exact fun hpairs later hlater => hpairs.1 later hlater rfl
    · rw [List.cons_append, List.erase_cons_tail (by simpa using hfirst), List.cons_append,
        List.cons.injEq, ih]
      simp [hfirst]

namespace Roll

variable {roll : Roll ω}

/-- What stays true of a viewport with its clients: the registered observers are all that were ever
observed, less the first registration of each that was removed. -/
structure IsSound (roll : Roll ω) : Prop where
  upheld : roll.session.Upheld steadiness
  issued : ∀ number ∈ roll.revoked, number < roll.observed.length
  removed : roll.removed.Subperm roll.observed
  observers : roll.session.state.observers = roll.observed.diff roll.removed

/-- A viewport without clients is sound. -/
theorem isSound_new (width height : Extent) : (new width height : Roll ω).IsSound where
  upheld := Session.upheld_new trivial
  issued := nofun
  removed := List.Subperm.refl _
  observers := rfl

/-- Every action of a client keeps a viewport sound. -/
theorem IsSound.step (h : roll.IsSound) (action : Action ω) : (roll.step action).IsSound := by
  cases action with
  | observe observer =>
    refine ⟨⟨trivial, h.upheld.waits⟩, fun number hnumber => ?_, ?_, ?_⟩
    · show number < (roll.observed ++ [observer]).length
      rw [List.length_append]
      exact Nat.lt_add_right _ (h.issued number hnumber)
    · exact h.removed.trans (List.sublist_append_left _ _).subperm
    · show roll.session.state.observers ++ [observer] = _
      rw [h.observers]
      exact (diff_concat h.removed observer).symm
  | revoke number =>
    rw [Roll.step]
    split
    · exact h
    · next observer hobserver =>
      refine ⟨⟨trivial, h.upheld.waits⟩, fun other hother => ?_, ?_, ?_⟩
      · rcases List.mem_append.1 hother with hearlier | hnow
        · exact h.issued other hearlier
        · rw [List.mem_singleton.1 hnow]
          exact (List.getElem?_eq_some_iff.1 hobserver).1
      · show (if _ then _ else _ : List ω).Subperm _
        split
        · next hmem =>
          rw [h.observers] at hmem
          exact subperm_concat h.removed hmem
        · exact h.removed
      · show roll.session.state.observers.erase observer = roll.observed.diff (if _ then _ else _)
        split
        · rw [List.diff_append, List.diff_cons, List.diff_nil, h.observers]
        · next hmem => rw [List.erase_of_not_mem hmem, h.observers]
  | setSize width height =>
    obtain ⟨hupheld, hobservers⟩ := upheld_begin_setSize h.upheld width height
    exact ⟨hupheld, h.issued, h.removed, hobservers.trans h.observers⟩
  | reply reply =>
    obtain ⟨hupheld, hobservers⟩ := upheld_answer h.upheld reply
    exact ⟨hupheld, h.issued, h.removed, hobservers.trans h.observers⟩

/-- Every run of actions keeps a viewport sound. -/
theorem IsSound.run (h : roll.IsSound) (actions : List (Action ω)) : (roll.run actions).IsSound := by
  induction actions generalizing roll with
  | nil => exact h
  | cons action actions ih => exact ih (h.step action)

/-! ## Registrations that stand -/

/-- An observe call stands after those before it. -/
theorem standing_observe (h : roll.IsSound) (observer : ω) :
    (roll.step (.observe observer)).standing =
      roll.standing ++ [(observer, roll.observed.length)] := by
  have hnew : roll.observed.length ∉ roll.revoked := fun hrevoked =>
    Nat.lt_irrefl _ (h.issued _ hrevoked)
  show (roll.observed ++ [observer]).zipIdx.filter _ = _
  rw [List.zipIdx_append, List.filter_append, Nat.zero_add]
  congr 1
  exact List.filter_cons_of_pos (decide_eq_true hnew)

/-- A call of its function ends the standing of the observe call alone. -/
theorem standing_revoke {number : Nat} {observer : ω} (h : roll.observed[number]? = some observer) :
    (roll.step (.revoke number)).standing = roll.standing.filter (·.2 ≠ number) := by
  simp only [Roll.step, h, standing, List.filter_filter]
  congr 1
  funext registration
  simp [not_or, and_comm]

/-- A function that is called removes its own registration exactly if it is called in its turn. -/
theorem erase_standing_iff {number : Nat} {observer : ω}
    (h : roll.observed[number]? = some observer) :
    (roll.standing.map (·.1)).erase observer = (roll.standing.filter (·.2 ≠ number)).map (·.1) ↔
      roll.IsInTurn number observer := by
  unfold IsInTurn
  split
  · next hrevoked =>
    have hkept : roll.standing.filter (·.2 ≠ number) = roll.standing := by
      refine List.filter_eq_self.2 fun registration hregistration => decide_eq_true ?_
      rintro rfl
      exact (mem_standing.1 hregistration).2 hrevoked
    rw [hkept, List.erase_eq_self_iff]
  · next hfresh =>
    -- Its own registration parts those that stand into the older ones and the newer ones.
    obtain ⟨before, after, hstanding⟩ := List.append_of_mem (mem_standing.2 ⟨h, hfresh⟩)
    have horder := roll.pairwise_standing
    rw [hstanding, List.pairwise_append, List.pairwise_cons] at horder
    obtain ⟨-, ⟨hafter, -⟩, hbefore⟩ := horder
    have hbefore : ∀ registration ∈ before, registration.2 < number :=
      fun registration hregistration => hbefore _ hregistration _ List.mem_cons_self
    have hothers : roll.standing.filter (·.2 ≠ number) = before ++ after := by
      rw [hstanding, List.filter_append, List.filter_cons_of_neg (by simp),
        List.filter_eq_self.2, List.filter_eq_self.2]
      · intro registration hregistration
        exact decide_eq_true (Nat.ne_of_gt (hafter registration hregistration))
      · intro registration hregistration
        exact decide_eq_true (Nat.ne_of_lt (hbefore registration hregistration))
    have hearlier : roll.standing.filter (·.2 < number) = before := by
      rw [hstanding, List.filter_append, List.filter_cons_of_neg (by simp),
        List.filter_eq_self.2, List.filter_eq_nil_iff.2, List.append_nil]
      · intro registration hregistration
        simpa using Nat.le_of_lt (hafter registration hregistration)
      · intro registration hregistration
        exact decide_eq_true (hbefore registration hregistration)
    rw [hothers, hearlier, hstanding, List.map_append, List.map_append, List.map_cons]
    exact erase_append_cons_eq_iff

/-- Of all actions only a call of a function out of its turn makes the registered observers differ
from those whose registrations stand. -/
theorem agrees_step_iff (h : roll.IsSound) (hagrees : roll.Agrees) (action : Action ω) :
    (roll.step action).Agrees ↔ ∀ number observer, action = .revoke number →
      roll.observed[number]? = some observer → roll.IsInTurn number observer := by
  cases action with
  | observe observer =>
    refine iff_of_true ?_ nofun
    show roll.session.state.observers ++ [observer] = _
    rw [standing_observe h, List.map_append, hagrees]
    rfl
  | revoke number =>
    cases hobserved : roll.observed[number]? with
    | none =>
      have hsame : roll.step (.revoke number) = roll := by simp only [Roll.step, hobserved]
      rw [hsame]
      refine iff_of_true hagrees ?_
      rintro _ observer ⟨⟩ hobserver
      rw [hobserved] at hobserver
      contradiction
    | some observer =>
      have herased : (roll.step (.revoke number)).session.state.observers =
          roll.session.state.observers.erase observer := by
        simp only [Roll.step, hobserved]
        rfl
      rw [Agrees, herased, standing_revoke hobserved, hagrees, erase_standing_iff hobserved]
      constructor
      · rintro hturn _ other ⟨⟩ hother
        rw [hobserved] at hother
        exact Option.some.inj hother ▸ hturn
      · exact fun hturns => hturns number observer rfl hobserved
  | setSize width height =>
    exact iff_of_true ((upheld_begin_setSize h.upheld width height).2.trans hagrees) nofun
  | reply reply => exact iff_of_true ((upheld_answer h.upheld reply).2.trans hagrees) nofun

/-- The observers are those that stand at every moment of a run exactly if each function is called
in its turn. -/
theorem agrees_run_iff (h : roll.IsSound) (hagrees : roll.Agrees) (actions : List (Action ω)) :
    (∀ earlier later, actions = earlier ++ later → (roll.run earlier).Agrees) ↔
      ∀ earlier number later, actions = earlier ++ .revoke number :: later →
        ∀ observer, (roll.run earlier).observed[number]? = some observer →
          (roll.run earlier).IsInTurn number observer := by
  constructor
  · -- The step lemma needs agreement before the call and gives its turn from agreement after it.
    rintro hall earlier number later rfl observer hobserver
    have hbefore := hall earlier (.revoke number :: later) rfl
    have hafter := hall (earlier ++ [.revoke number]) later (by simp)
    rw [run, List.foldl_concat] at hafter
    exact (agrees_step_iff (h.run earlier) hbefore _).1 hafter number observer rfl hobserver
  · intro hturns earlier later hactions
    induction earlier generalizing roll actions with
    | nil => exact hagrees
    | cons action earlier ih =>
      subst hactions
      have hnext : (roll.step action).Agrees := by
        refine (agrees_step_iff h hagrees action).2 ?_
        rintro number observer rfl hobserver
        exact hturns [] number _ rfl observer hobserver
      refine ih (h.step action) hnext (earlier ++ later) ?_ rfl
      rintro middle number last hmiddle
      exact hturns (action :: middle) number last (congrArg (action :: ·) hmiddle)

/-! ## Observers that observe once -/

/-- What was observed stays so, in order. -/
theorem observed_run (roll : Roll ω) (actions : List (Action ω)) :
    roll.observed <+: (roll.run actions).observed := by
  induction actions generalizing roll with
  | nil => exact List.prefix_rfl
  | cons action actions ih =>
    refine List.IsPrefix.trans ?_ (ih (roll.step action))
    cases action with
    | observe observer => exact List.prefix_append _ _
    | revoke number =>
      rw [Roll.step]
      split <;> exact List.prefix_rfl
    | setSize width height => exact List.prefix_rfl
    | reply reply => exact List.prefix_rfl

omit [DecidableEq ω] in
/-- Where all observers are distinct, each function is always called in its turn. -/
theorem isInTurn_of_nodup (hdistinct : roll.observed.Nodup) {number : Nat} {observer : ω}
    (h : roll.observed[number]? = some observer) : roll.IsInTurn number observer := by
  have hown : ∀ registration ∈ roll.standing, registration.1 = observer →
      registration.2 = number := by
    rintro ⟨other, index⟩ hregistration rfl
    obtain ⟨hindex, -⟩ := mem_standing.1 hregistration
    have hbound : index < roll.observed.length := (List.getElem?_eq_some_iff.1 hindex).1
    exact (List.getElem?_inj hbound hdistinct).1 (hindex.trans h.symm)
  unfold IsInTurn
  split
  · next hrevoked =>
    intro hstands
    obtain ⟨registration, hregistration, hsame⟩ := List.mem_map.1 hstands
    rw [← hown registration hregistration hsame] at hrevoked
    exact (mem_standing.1 hregistration).2 hrevoked
  · refine List.pairwise_map.2 (List.pairwise_of_forall_mem_list ?_)
    intro earlier hearlier later _ hsame
    obtain ⟨hregistration, hbefore⟩ := List.mem_filter.1 hearlier
    have hnumber := hown earlier hregistration hsame
    exact absurd hnumber (Nat.ne_of_lt (of_decide_eq_true hbefore))

end Roll

/-! ## The registered observers -/

/-- The registered observers are all that were ever observed, less the first registration of an
observer for each call of one of its functions that found it registered. They are at every moment
those whose own function has not been called exactly if every function is called in its turn, as is
always the case if no observer observes twice. -/
theorem observers_eq_standing_iff (width height : Extent) (actions : List (Action ω)) :
    let roll := (Roll.new width height : Roll ω).run actions
    roll.session.state.observers = roll.observed.diff roll.removed ∧
      ((∀ earlier later, actions = earlier ++ later →
          ((Roll.new width height : Roll ω).run earlier).Agrees) ↔
        ∀ earlier number later, actions = earlier ++ .revoke number :: later →
          let before := (Roll.new width height : Roll ω).run earlier
          ∀ observer, before.observed[number]? = some observer →
            before.IsInTurn number observer) ∧
      (roll.observed.Nodup → roll.Agrees) := by
  intro roll
  have hnew : (Roll.new width height : Roll ω).IsSound := Roll.isSound_new width height
  have hiff := Roll.agrees_run_iff hnew rfl actions
  refine ⟨(hnew.run actions).observers, hiff, fun hdistinct => ?_⟩
  refine hiff.2 ?_ actions [] (List.append_nil _).symm
  rintro earlier number later rfl observer hobserver
  refine Roll.isInTurn_of_nodup (hdistinct.sublist ?_) hobserver
  have hprefix := Roll.observed_run ((Roll.new width height).run earlier) (.revoke number :: later)
  rw [Roll.run, Roll.run, ← List.foldl_append] at hprefix
  exact hprefix.sublist

/-- A function that is called twice ends two registrations. -/
theorem revoked_twice_ends_other :
    ¬ ∀ (width height : Extent) (actions : List (Action Nat)),
      ((Roll.new width height : Roll Nat).run actions).Agrees := by
  intro h
  have hleft := h ⟨600, false⟩ ⟨800, false⟩ [.observe 1, .observe 1, .revoke 0, .revoke 0]
  cases hleft

end Breakpoint.Viewport
