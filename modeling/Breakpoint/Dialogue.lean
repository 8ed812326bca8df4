import Breakpoint.Fault

/-!
# Operations that call the host back

An operation runs on a state and may call the host on its way. While the host has control it
may run other operations on the same state, so the state after a call can be any; a dialogue is
therefore a tree that branches over the host's reply and the state it leaves behind. Every
dialogue is finite, whatever the host does.
-/

namespace Breakpoint

/-- An operation under way on states `σ`: it has ended, or it waits for the reply `ρ` of the
host to a callback `κ`. -/
inductive Dialogue (σ κ ρ α : Type) where
  | done (outcome : Except Fault α) (state : σ)
  | call (callback : κ) (state : σ) (resume : ρ → σ → Dialogue σ κ ρ α)

namespace Dialogue

variable {σ κ ρ α β γ : Type}

/-- Goes on with the outcome of a dialogue, be it a result or a fault. -/
def andThen : Dialogue σ κ ρ α → (Except Fault α → σ → Dialogue σ κ ρ β) → Dialogue σ κ ρ β
  | .done outcome state, next => next outcome state
  | .call callback state resume, next =>
    .call callback state fun reply state => (resume reply state).andThen next

/-- What goes on twice goes on with both, one after the other. -/
theorem andThen_assoc (dialogue : Dialogue σ κ ρ α)
    (first : Except Fault α → σ → Dialogue σ κ ρ β)
    (second : Except Fault β → σ → Dialogue σ κ ρ γ) :
    (dialogue.andThen first).andThen second =
      dialogue.andThen fun outcome state => (first outcome state).andThen second := by
  induction dialogue with
  | done outcome state => rfl
  | call callback state resume ih =>
    simp only [andThen]
    congr 1
    funext reply state
    exact ih reply state

/-- A dialogue that goes on with nothing is the same. -/
theorem andThen_done (dialogue : Dialogue σ κ ρ α) : dialogue.andThen .done = dialogue := by
  induction dialogue with
  | done outcome state => rfl
  | call callback state resume ih =>
    simp only [andThen]
    congr 1
    funext reply state
    exact ih reply state

/-- The end of a dialogue for a host that gives every callback the same reply and runs nothing
meanwhile: the callbacks in order, the outcome and the state. -/
def settle (reply : ρ) : Dialogue σ κ ρ α → List κ × Except Fault α × σ
  | .done outcome state => ([], outcome, state)
  | .call callback state resume =>
    let (callbacks, rest) := (resume reply state).settle reply
    (callback :: callbacks, rest)

end Dialogue

/-- An operation on states `σ` with callbacks `κ` and replies `ρ`. -/
def Operation (σ κ ρ α : Type) : Type := σ → Dialogue σ κ ρ α

namespace Operation

variable {σ κ ρ α β : Type}

/-- The operation that goes on with the result of another, or stops at its fault. -/
def bind (operation : Operation σ κ ρ α) (next : α → Operation σ κ ρ β) : Operation σ κ ρ β :=
  fun state => (operation state).andThen fun outcome state =>
    match outcome with
    | .ok result => next result state
    | .error fault => .done (.error fault) state

instance : Monad (Operation σ κ ρ) where
  pure result := fun state => .done (.ok result) state
  bind := bind

instance : LawfulMonad (Operation σ κ ρ) := .mk' _
  (fun operation => by
    funext state
    show (operation state).andThen _ = operation state
    conv => rhs; rw [← (operation state).andThen_done]
    congr 1
    funext outcome state
    cases outcome <;> rfl)
  (fun _ _ => rfl)
  (fun operation first second => by
    funext state
    show ((operation state).andThen _).andThen _ = (operation state).andThen _
    rw [Dialogue.andThen_assoc]
    congr 1
    funext outcome state
    cases outcome <;> rfl)

/-- The state. -/
def get : Operation σ κ ρ σ := fun state => .done (.ok state) state

/-- Puts another state in the place of the state. -/
def set (state : σ) : Operation σ κ ρ Unit := fun _ => .done (.ok ()) state

/-- Changes the state. -/
def modify (change : σ → σ) : Operation σ κ ρ Unit := fun state => .done (.ok ()) (change state)

/-- Ends the operation with a fault. -/
def fail (fault : Fault) : Operation σ κ ρ α := fun state => .done (.error fault) state

/-- The result of a computation without state, or its fault. -/
def lift (outcome : Except Fault α) : Operation σ κ ρ α := fun state => .done outcome state

/-- Calls the host back. -/
def call (callback : κ) : Operation σ κ ρ ρ :=
  fun state => .call callback state fun reply state => .done (.ok reply) state

/-- The outcome of an operation, a fault included, as its result. -/
def attempt (operation : Operation σ κ ρ α) : Operation σ κ ρ (Except Fault α) :=
  fun state => (operation state).andThen fun outcome state => .done (.ok outcome) state

/-- The operation with a change of the state at its end, also when it ends with a fault. -/
def ensuring (operation : Operation σ κ ρ α) (change : σ → σ) : Operation σ κ ρ α :=
  fun state => (operation state).andThen fun outcome state => .done outcome (change state)

/-- Runs an operation for each member of a list. -/
def forAll (run : α → Operation σ κ ρ Unit) : List α → Operation σ κ ρ Unit
  | [] => pure ()
  | first :: rest => do
    run first
    forAll run rest

/-- A result ends at once and leaves the state. -/
@[simp] theorem pure_apply (result : α) (state : σ) :
    (pure result : Operation σ κ ρ α) state = .done (.ok result) state :=
  rfl

/-- A change ends at once in the changed state. -/
@[simp] theorem modify_apply (change : σ → σ) (state : σ) :
    (modify change : Operation σ κ ρ Unit) state = .done (.ok ()) (change state) :=
  rfl

/-- An outcome ends at once and leaves the state. -/
@[simp] theorem lift_apply (outcome : Except Fault α) (state : σ) :
    (lift outcome : Operation σ κ ρ α) state = .done outcome state :=
  rfl

/-- What looks at the state goes on with it. -/
@[simp] theorem get_bind (next : σ → Operation σ κ ρ β) (state : σ) :
    (get >>= next) state = next state state :=
  rfl

/-- What changes the state goes on in the changed one. -/
@[simp] theorem modify_bind (change : σ → σ) (next : Unit → Operation σ κ ρ β) (state : σ) :
    (modify change >>= next) state = next () (change state) :=
  rfl

/-- A change whose result is replaced ends at once in the changed state. -/
@[simp] theorem map_modify (f : Unit → α) (change : σ → σ) (state : σ) :
    (f <$> modify change : Operation σ κ ρ α) state = .done (.ok (f ())) (change state) :=
  rfl

/-- What has a result goes on with it. -/
@[simp] theorem pure_bind_apply (result : α) (next : α → Operation σ κ ρ β) (state : σ) :
    ((pure result : Operation σ κ ρ α) >>= next) state = next result state :=
  rfl

/-- An operation that ends at once with a result goes on with it. -/
theorem bind_of_done {operation : Operation σ κ ρ α} {next : α → Operation σ κ ρ β} {result : α}
    {state after : σ} (h : operation state = .done (.ok result) after) :
    (operation >>= next) state = next result after := by
  show (operation state).andThen _ = _
  rw [h]
  rfl

/-- An operation that ends at once with a fault ends what follows, too. -/
theorem bind_of_fault {operation : Operation σ κ ρ α} {next : α → Operation σ κ ρ β}
    {fault : Fault} {state after : σ} (h : operation state = .done (.error fault) after) :
    (operation >>= next) state = .done (.error fault) after := by
  show (operation state).andThen _ = _
  rw [h]
  rfl

/-- Calls the host back and stops at the fault of its reply. -/
def callOrFail (callback : κ) : Operation σ κ (Except Fault α) α := do
  lift (← call callback)

end Operation

end Breakpoint
