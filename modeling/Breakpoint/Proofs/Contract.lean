import Breakpoint.Session

/-!
# Contracts between operations and their host

While an operation waits for a reply, the host may run other operations on the same state. A
contract says what the two sides owe each other: of which states the host gets control, how a
whole operation moves the state, and from which states an operation may call.

An operation honours a contract if it keeps its side as long as the host keeps its own. If all
operations of a session honour a contract, the host keeps it by itself, however it nests them:
what it does between a callback and its reply is again a row of whole operations.
-/

namespace Breakpoint

/-- What operations on states `σ` and a host that answers callbacks `κ` owe each other. -/
structure Contract (σ κ : Type) where
  /-- What holds of the state whenever the host has control. -/
  Valid : σ → Prop
  /-- How a whole operation may move the state. -/
  Step : σ → σ → Prop
  /-- From which states an operation may call the host. -/
  Call : κ → σ → Prop
  refl : ∀ state, Step state state
  trans : ∀ {first second third}, Step first second → Step second third → Step first third

variable {σ κ ρ α β : Type}

/-- The dialogue keeps a contract and ends as `post` says, if the host moves the state by whole
operations only. -/
def Dialogue.Keeps (contract : Contract σ κ) (post : Except Fault α → σ → Prop) :
    Dialogue σ κ ρ α → Prop
  | .done outcome state => post outcome state
  | .call callback state resume =>
    contract.Valid state ∧ contract.Call callback state ∧
      ∀ reply after, contract.Valid after → contract.Step state after →
        (resume reply after).Keeps contract post

namespace Dialogue

variable {contract : Contract σ κ}

/-- What a dialogue ends with may be weakened. -/
theorem Keeps.imp {post weaker : Except Fault α → σ → Prop} {dialogue : Dialogue σ κ ρ α}
    (h : dialogue.Keeps contract post) (himp : ∀ outcome state, post outcome state → weaker outcome state) :
    dialogue.Keeps contract weaker := by
  induction dialogue with
  | done outcome state => exact himp outcome state h
  | call callback state resume ih =>
    obtain ⟨hvalid, hcall, hresume⟩ := h
    refine ⟨hvalid, hcall, ?_⟩
    intro reply after hafter hstep
    exact ih reply after (hresume reply after hafter hstep)

/-- A dialogue that goes on keeps a contract if its first part ends where the rest keeps it. -/
theorem keeps_andThen {post : Except Fault β → σ → Prop} {dialogue : Dialogue σ κ ρ α}
    {next : Except Fault α → σ → Dialogue σ κ ρ β} :
    (dialogue.andThen next).Keeps contract post ↔
      dialogue.Keeps contract fun outcome state => (next outcome state).Keeps contract post := by
  induction dialogue with
  | done outcome state => rfl
  | call callback state resume ih => simp only [andThen, Keeps, ih]

end Dialogue

/-- The contract of operations that call no one. -/
def Contract.silent : Contract σ κ where
  Valid _ := True
  Step _ _ := True
  Call _ _ := False
  refl _ := trivial
  trans _ _ := trivial

/-- A dialogue that calls no one has ended. -/
theorem Dialogue.Keeps.exists_done {post : Except Fault α → σ → Prop} {dialogue : Dialogue σ κ ρ α}
    (h : dialogue.Keeps Contract.silent post) :
    ∃ outcome state, dialogue = .done outcome state ∧ post outcome state := by
  cases dialogue with
  | done outcome state => exact ⟨outcome, state, rfl, h⟩
  | call callback state resume => exact h.2.1.elim

namespace Operation

variable {contract : Contract σ κ}

/-- What the operation that follows asks of the outcome before it: a fault ends both. -/
def Continues (contract : Contract σ κ) (next : α → Operation σ κ ρ β)
    (post : Except Fault β → σ → Prop) : Except Fault α → σ → Prop
  | .ok result, state => (next result state).Keeps contract post
  | .error fault, state => post (.error fault) state

/-- After a result, an operation goes on with its next part. -/
@[simp] theorem continues_ok {next : α → Operation σ κ ρ β} {post : Except Fault β → σ → Prop}
    {result : α} {state : σ} :
    Continues contract next post (.ok result) state ↔ (next result state).Keeps contract post :=
  Iff.rfl

/-- A result keeps the contract, and ends as itself. -/
@[simp] theorem keeps_pure {post : Except Fault α → σ → Prop} {result : α} {state : σ} :
    ((pure result : Operation σ κ ρ α) state).Keeps contract post ↔ post (.ok result) state :=
  Iff.rfl

/-- Two parts keep the contract if the second does wherever the first ends. -/
@[simp] theorem keeps_bind {post : Except Fault β → σ → Prop} {first : Operation σ κ ρ α}
    {next : α → Operation σ κ ρ β} {state : σ} :
    ((first >>= next) state).Keeps contract post ↔
      (first state).Keeps contract (Continues contract next post) := by
  refine Dialogue.keeps_andThen.trans ⟨fun h => h.imp ?_, fun h => h.imp ?_⟩
  all_goals
    intro outcome state h
    cases outcome <;> exact h

/-- Looking at the state keeps the contract. -/
@[simp] theorem keeps_get {post : Except Fault σ → σ → Prop} {state : σ} :
    ((get : Operation σ κ ρ σ) state).Keeps contract post ↔ post (.ok state) state :=
  Iff.rfl

/-- A change of the state keeps the contract, and ends in the changed state. -/
@[simp] theorem keeps_modify {post : Except Fault Unit → σ → Prop} {change : σ → σ} {state : σ} :
    ((modify change : Operation σ κ ρ Unit) state).Keeps contract post ↔
      post (.ok ()) (change state) :=
  Iff.rfl

/-- An outcome keeps the contract, and ends as itself. -/
@[simp] theorem keeps_lift {post : Except Fault α → σ → Prop} {outcome : Except Fault α}
    {state : σ} :
    ((lift outcome : Operation σ κ ρ α) state).Keeps contract post ↔ post outcome state :=
  Iff.rfl

/-- A call keeps the contract if it may be made, and ends wherever the host may leave the state. -/
@[simp] theorem keeps_call {post : Except Fault ρ → σ → Prop} {callback : κ} {state : σ} :
    ((call callback : Operation σ κ ρ ρ) state).Keeps contract post ↔
      contract.Valid state ∧ contract.Call callback state ∧
        ∀ reply after, contract.Valid after → contract.Step state after →
          post (.ok reply) after :=
  Iff.rfl

/-- A caught failure ends as a result. -/
@[simp] theorem keeps_attempt {post : Except Fault (Except Fault α) → σ → Prop}
    {operation : Operation σ κ ρ α} {state : σ} :
    (operation.attempt state).Keeps contract post ↔
      (operation state).Keeps contract fun outcome state => post (.ok outcome) state :=
  Dialogue.keeps_andThen

/-- A change at the end is made whatever the outcome. -/
@[simp] theorem keeps_ensuring {post : Except Fault α → σ → Prop}
    {operation : Operation σ κ ρ α} {change : σ → σ} {state : σ} :
    (operation.ensuring change state).Keeps contract post ↔
      (operation state).Keeps contract fun outcome state => post outcome (change state) :=
  Dialogue.keeps_andThen

/-- The operation keeps its side of a contract from every state that the host may begin it in. -/
def Honours (contract : Contract σ κ) (operation : Operation σ κ ρ α) : Prop :=
  ∀ state, contract.Valid state →
    (operation state).Keeps contract fun _ after =>
      contract.Valid after ∧ contract.Step state after

/-- Operations that each honour a contract honour it one after the other. -/
theorem Honours.bind {first : Operation σ κ ρ α} {next : α → Operation σ κ ρ β}
    (hfirst : Honours contract first) (hnext : ∀ result, Honours contract (next result)) :
    Honours contract (first >>= next) := by
  intro state hvalid
  rw [keeps_bind]
  apply (hfirst state hvalid).imp
  intro outcome middle hpost
  obtain ⟨hmiddle, hstep⟩ := hpost
  cases outcome with
  | error fault => exact ⟨hmiddle, hstep⟩
  | ok result =>
    apply (hnext result middle hmiddle).imp
    intro outcome after hlater
    obtain ⟨hafter, hrest⟩ := hlater
    exact ⟨hafter, contract.trans hstep hrest⟩

/-- An operation that does nothing honours every contract. -/
theorem honours_pure (result : α) : Honours contract (pure result : Operation σ κ ρ α) :=
  fun state hvalid => ⟨hvalid, contract.refl state⟩

/-- Looking at the state honours every contract. -/
theorem honours_get : Honours contract (get : Operation σ κ ρ σ) :=
  fun state hvalid => ⟨hvalid, contract.refl state⟩

/-- Another view of the result does not matter to a contract. -/
theorem Honours.map {operation : Operation σ κ ρ α} (h : Honours contract operation)
    (f : α → β) : Honours contract (f <$> operation) :=
  h.bind fun result => honours_pure (f result)

/-- An operation honours a contract for each member of a list if it does for one. -/
theorem honours_forAll {run : α → Operation σ κ ρ Unit} {members : List α}
    (h : ∀ member, Honours contract (run member)) : Honours contract (forAll run members) := by
  induction members with
  | nil => exact honours_pure ()
  | cons first rest ih => exact (h first).bind fun _ => ih

end Operation

/-- The change of the state is one that a whole operation may make. -/
def Contract.Admits (contract : Contract σ κ) (change : σ → σ) : Prop :=
  ∀ state, contract.Valid state →
    contract.Valid (change state) ∧ contract.Step state (change state)

/-- A single admitted change honours the contract. -/
theorem Contract.Admits.honours {contract : Contract σ κ} {change : σ → σ}
    (h : contract.Admits change) :
    Operation.Honours contract (Operation.modify change : Operation σ κ ρ Unit) := h

/-- The operations that wait, the last begun first. Each was begun in a state that those before
it lead to, and keeps the contract once the host answers in a state reached by whole
operations from its call. -/
def Contract.Waits (contract : Contract σ κ) (root : σ) :
    List (ρ → σ → Dialogue σ κ ρ α) → σ → Prop
  | [], state => contract.Step root state
  | resume :: waiting, state =>
    ∃ begun called, contract.Valid begun ∧ contract.Waits root waiting begun ∧
      contract.Step called state ∧
        ∀ reply after, contract.Valid after → contract.Step called after →
          (resume reply after).Keeps contract fun _ ended =>
            contract.Valid ended ∧ contract.Step begun ended

/-- What waits does not mind a further whole operation. -/
theorem Contract.Waits.step {contract : Contract σ κ} {root state after : σ}
    {waiting : List (ρ → σ → Dialogue σ κ ρ α)} (h : contract.Waits root waiting state)
    (hstep : contract.Step state after) : contract.Waits root waiting after := by
  cases waiting with
  | nil => exact contract.trans h hstep
  | cons resume waiting =>
    obtain ⟨begun, called, hbegun, hwaiting, hcalled, hresume⟩ := h
    exact ⟨begun, called, hbegun, hwaiting, contract.trans hcalled hstep, hresume⟩

/-- Whether a move begins only an operation that is wanted; answers are free. -/
def Move.Begins {Request : Type} (allowed : Request → Prop) : Move Request ρ → Prop
  | .begin request => allowed request
  | .answer _ => True

/-- If every operation is wanted, every move is. -/
theorem Move.begins_of_forall {Request : Type} {allowed : Request → Prop}
    (h : ∀ request, allowed request) (move : Move Request ρ) : move.Begins allowed := by
  cases move with
  | begin request => exact h request
  | answer reply => trivial

namespace Session

variable {Request : Type} {contract : Contract σ κ} {root : σ}

/-- The session has kept the contract since the state `root`. -/
structure Obeys (contract : Contract σ κ) (root : σ) (session : Session Request σ κ ρ α) :
    Prop where
  valid : contract.Valid session.state
  waits : contract.Waits root session.waiting session.state
  /-- The last callback was made from a state in which it may be. -/
  call : ∀ callback history, session.history = .called callback :: history →
    contract.Call callback session.state

/-- A new session keeps a contract that its state is valid for. -/
theorem obeys_new (hvalid : contract.Valid root) :
    Obeys contract root ({ state := root } : Session Request σ κ ρ α) where
  valid := hvalid
  waits := contract.refl root
  call := by
    intro callback history h
    cases h

/-- Going on with a dialogue that keeps the contract keeps the session to it. -/
theorem obeys_advance {session : Session Request σ κ ρ α} {begun : σ}
    {dialogue : Dialogue σ κ ρ α} (hbegun : contract.Valid begun)
    (hwaits : contract.Waits root session.waiting begun)
    (h : dialogue.Keeps contract fun _ ended => contract.Valid ended ∧ contract.Step begun ended) :
    Obeys contract root (session.advance dialogue) := by
  cases dialogue with
  | done outcome state =>
    refine ⟨h.1, hwaits.step h.2, ?_⟩
    intro callback history hhistory
    cases hhistory
  | call callback state resume =>
    obtain ⟨hvalid, hcall, hresume⟩ := h
    refine ⟨hvalid, ⟨begun, state, hbegun, hwaits, contract.refl state, hresume⟩, ?_⟩
    intro other history hhistory
    cases hhistory
    exact hcall

variable {perform : Request → Operation σ κ ρ α} {allowed : Request → Prop}

/-- A move that begins only operations which honour the contract keeps the session to it. -/
theorem Obeys.step (hperform : ∀ request, allowed request → (perform request).Honours contract)
    {session : Session Request σ κ ρ α} (h : Obeys contract root session)
    {move : Move Request ρ} (hmove : move.Begins allowed) :
    Obeys contract root (session.step perform move) := by
  cases move with
  | begin request =>
    exact obeys_advance h.valid h.waits (hperform request hmove session.state h.valid)
  | answer reply =>
    obtain ⟨state, waiting, history⟩ := session
    cases waiting with
    | nil => exact h
    | cons resume waiting =>
      obtain ⟨begun, called, hbegun, hwaiting, hcalled, hresume⟩ := h.waits
      exact obeys_advance hbegun hwaiting (hresume reply state h.valid hcalled)

/-- Every session whose operations honour the contract keeps it, whatever the host does. -/
theorem Obeys.run (hperform : ∀ request, allowed request → (perform request).Honours contract)
    {session : Session Request σ κ ρ α} (h : Obeys contract root session)
    {moves : List (Move Request ρ)} (hmoves : ∀ move ∈ moves, move.Begins allowed) :
    Obeys contract root (session.run perform moves) := by
  induction moves generalizing session with
  | nil => exact h
  | cons move moves ih =>
    rw [List.forall_mem_cons] at hmoves
    exact ih (h.step hperform hmoves.1) hmoves.2

/-- While no operation is under way, the state was reached by whole operations. -/
theorem Obeys.step_of_isIdle {session : Session Request σ κ ρ α}
    (h : Obeys contract root session) (hidle : session.isIdle = true) :
    contract.Step root session.state := by
  have hwaits := h.waits
  rw [List.isEmpty_iff.1 hidle] at hwaits
  exact hwaits

end Session

end Breakpoint
