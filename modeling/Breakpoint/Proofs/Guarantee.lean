import Breakpoint.Session

/-!
# What operations guarantee between callbacks

Between two places where the host has control, an operation moves the state on its own. A
guarantee says of which states the host gets control and how the state moves in between. Nothing
is asked of the host but that it gives control back in such a state, so an operation that waits
for a reply keeps its guarantee whatever was done to the state meanwhile, and the state moves the
same way from any moment of a session to any later one.
-/

namespace Breakpoint

/-- How operations on states `σ` move the state between two places where the host has control. -/
structure Guarantee (σ : Type) where
  /-- What holds of the state whenever the host has control. -/
  Valid : σ → Prop
  /-- How the state moves until the host has control again. -/
  Step : σ → σ → Prop
  refl : ∀ state, Step state state
  trans : ∀ {first second third}, Step first second → Step second third → Step first third

variable {σ κ ρ α β : Type} {guarantee : Guarantee σ}

/-- The dialogue keeps the guarantee, if the host had control last in the state `origin`. -/
def Dialogue.Moves (guarantee : Guarantee σ) (origin : σ) : Dialogue σ κ ρ α → Prop
  | .done _ state => guarantee.Valid state ∧ guarantee.Step origin state
  | .call _ state resume =>
    guarantee.Valid state ∧ guarantee.Step origin state ∧
      ∀ reply after, guarantee.Valid after → (resume reply after).Moves guarantee after

namespace Dialogue

variable {origin middle : σ} {dialogue : Dialogue σ κ ρ α}

/-- A dialogue that goes on after a step goes on before it. -/
theorem Moves.after (hstep : guarantee.Step origin middle) (h : dialogue.Moves guarantee middle) :
    dialogue.Moves guarantee origin := by
  cases dialogue with
  | done outcome state => exact ⟨h.1, guarantee.trans hstep h.2⟩
  | call callback state resume => exact ⟨h.1, guarantee.trans hstep h.2.1, h.2.2⟩

/-- A dialogue keeps the guarantee if what follows keeps it from every valid state. -/
theorem Moves.andThen {next : Except Fault α → σ → Dialogue σ κ ρ β}
    (h : dialogue.Moves guarantee origin)
    (hnext : ∀ outcome state, guarantee.Valid state → (next outcome state).Moves guarantee state) :
    (dialogue.andThen next).Moves guarantee origin := by
  induction dialogue generalizing origin with
  | done outcome state => exact (hnext outcome state h.1).after h.2
  | call callback state resume ih =>
    obtain ⟨hvalid, hstep, hresume⟩ := h
    refine ⟨hvalid, hstep, ?_⟩
    intro reply after hafter
    exact ih reply after (hresume reply after hafter)

end Dialogue

namespace Operation

/-- The operation keeps the guarantee from every state that the host may begin it in. -/
def Upholds (guarantee : Guarantee σ) (operation : Operation σ κ ρ α) : Prop :=
  ∀ state, guarantee.Valid state → (operation state).Moves guarantee state

/-- Operations that each keep the guarantee keep it one after the other. -/
theorem Upholds.bind {operation : Operation σ κ ρ α} {next : α → Operation σ κ ρ β}
    (h : Upholds guarantee operation) (hnext : ∀ result, Upholds guarantee (next result)) :
    Upholds guarantee (operation >>= next) := by
  intro state hvalid
  apply (h state hvalid).andThen
  intro outcome after hafter
  cases outcome with
  | ok result => exact hnext result after hafter
  | error fault => exact ⟨hafter, guarantee.refl after⟩

/-- An outcome that is there already keeps every guarantee. -/
theorem upholds_lift (outcome : Except Fault α) :
    Upholds guarantee (lift outcome : Operation σ κ ρ α) :=
  fun state hvalid => ⟨hvalid, guarantee.refl state⟩

/-- A result keeps every guarantee. -/
theorem upholds_pure (result : α) : Upholds guarantee (pure result : Operation σ κ ρ α) :=
  upholds_lift (.ok result)

/-- A failure keeps every guarantee. -/
theorem upholds_fail (fault : Fault) : Upholds guarantee (fail fault : Operation σ κ ρ α) :=
  upholds_lift (.error fault)

/-- Looking at the state keeps every guarantee. -/
theorem upholds_get : Upholds guarantee (get : Operation σ κ ρ σ) :=
  fun state hvalid => ⟨hvalid, guarantee.refl state⟩

/-- A call keeps every guarantee, as the host begins whole operations only. -/
theorem upholds_call (callback : κ) : Upholds guarantee (call callback : Operation σ κ ρ ρ) :=
  fun state hvalid =>
    ⟨hvalid, guarantee.refl state, fun _ after hafter => ⟨hafter, guarantee.refl after⟩⟩

/-- A call whose failure is passed on keeps every guarantee. -/
theorem upholds_callOrFail (callback : κ) :
    Upholds guarantee (callOrFail callback : Operation σ κ (Except Fault α) α) :=
  (upholds_call callback).bind upholds_lift

/-- A change that is a step between valid states keeps the guarantee. -/
theorem upholds_modify {change : σ → σ}
    (h : ∀ state, guarantee.Valid state →
      guarantee.Valid (change state) ∧ guarantee.Step state (change state)) :
    Upholds guarantee (modify change : Operation σ κ ρ Unit) := h

/-- Another view of the result does not matter. -/
theorem Upholds.map {operation : Operation σ κ ρ α} (h : Upholds guarantee operation) (f : α → β) :
    Upholds guarantee (f <$> operation) :=
  h.bind fun result => upholds_pure (f result)

/-- An operation whose failure is caught keeps the guarantee that it kept. -/
theorem Upholds.attempt {operation : Operation σ κ ρ α} (h : Upholds guarantee operation) :
    Upholds guarantee operation.attempt := by
  intro state hvalid
  apply (h state hvalid).andThen
  exact fun outcome after hafter => ⟨hafter, guarantee.refl after⟩

/-- An operation that ends with a change keeps the guarantee if the change does. -/
theorem Upholds.ensuring {operation : Operation σ κ ρ α} (h : Upholds guarantee operation)
    {change : σ → σ} (hchange : ∀ state, guarantee.Valid state →
      guarantee.Valid (change state) ∧ guarantee.Step state (change state)) :
    Upholds guarantee (operation.ensuring change) := by
  intro state hvalid
  apply (h state hvalid).andThen
  exact fun outcome after hafter => hchange after hafter

/-- A loop keeps the guarantee if each of its rounds does. -/
theorem upholds_forAll {run : α → Operation σ κ ρ Unit} (h : ∀ member, Upholds guarantee (run member))
    (members : List α) : Upholds guarantee (forAll run members) := by
  induction members with
  | nil => exact upholds_pure ()
  | cons first rest ih => exact (h first).bind fun _ => ih

end Operation

namespace Session

variable {Request : Type}

/-- The host has control in a valid state, and what waits keeps the guarantee from every one. -/
structure Upheld (guarantee : Guarantee σ) (session : Session Request σ κ ρ α) : Prop where
  valid : guarantee.Valid session.state
  waits : ∀ resume ∈ session.waiting, ∀ reply after, guarantee.Valid after →
    (resume reply after).Moves guarantee after

/-- The guarantee is upheld where nothing was begun. -/
theorem upheld_new {state : σ} (h : guarantee.Valid state) :
    Upheld guarantee ({ state } : Session Request σ κ ρ α) :=
  ⟨h, fun _ hnone => by cases hnone⟩

/-- Going on with a dialogue that keeps the guarantee moves the state by a step. -/
theorem upheld_advance {session : Session Request σ κ ρ α} {origin : σ} {dialogue : Dialogue σ κ ρ α}
    (hwaits : ∀ resume ∈ session.waiting, ∀ reply after, guarantee.Valid after →
      (resume reply after).Moves guarantee after)
    (h : dialogue.Moves guarantee origin) :
    (session.advance dialogue).Upheld guarantee ∧
      guarantee.Step origin (session.advance dialogue).state := by
  cases dialogue with
  | done outcome state => exact ⟨⟨h.1, hwaits⟩, h.2⟩
  | call callback state resume =>
    obtain ⟨hvalid, hstep, hresume⟩ := h
    refine ⟨⟨hvalid, ?_⟩, hstep⟩
    exact List.forall_mem_cons.2 ⟨hresume, hwaits⟩

variable {perform : Request → Operation σ κ ρ α}

/-- One move of the host moves the state by a step. -/
theorem Upheld.step (hperform : ∀ request, (perform request).Upholds guarantee)
    {session : Session Request σ κ ρ α} (h : session.Upheld guarantee) (move : Move Request ρ) :
    (session.step perform move).Upheld guarantee ∧
      guarantee.Step session.state (session.step perform move).state := by
  cases move with
  | begin request => exact upheld_advance h.waits (hperform request session.state h.valid)
  | answer reply =>
    obtain ⟨state, waiting, history⟩ := session
    cases waiting with
    | nil => exact ⟨h, guarantee.refl state⟩
    | cons resume waiting =>
      have hwaits := List.forall_mem_cons.1 h.waits
      exact upheld_advance hwaits.2 (hwaits.1 reply state h.valid)

/-- From any moment of a session to any later one the state moves by a step. -/
theorem Upheld.run (hperform : ∀ request, (perform request).Upholds guarantee)
    {session : Session Request σ κ ρ α} (h : session.Upheld guarantee)
    (moves : List (Move Request ρ)) :
    (session.run perform moves).Upheld guarantee ∧
      guarantee.Step session.state (session.run perform moves).state := by
  induction moves generalizing session with
  | nil => exact ⟨h, guarantee.refl session.state⟩
  | cons move moves ih =>
    obtain ⟨hnext, hstep⟩ := h.step hperform move
    obtain ⟨hupheld, hsteps⟩ := ih hnext
    exact ⟨hupheld, guarantee.trans hstep hsteps⟩

end Session

end Breakpoint
