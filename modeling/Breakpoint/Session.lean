import Breakpoint.Dialogue

/-!
# Sessions

A session is the whole dealing of a host with one state: the host begins operations, answers
the callbacks it receives, and may begin further operations before it answers. Every list of
moves is a possible session, so what holds after every list of moves holds whatever the host
does.
-/

namespace Breakpoint

/-- What a host may do next: begin an operation, or answer the last callback that waits. -/
inductive Move (Request ρ : Type) where
  | begin (request : Request)
  | answer (reply : ρ)

/-- What happened in a session. -/
inductive Happening (Request κ ρ α : Type) where
  | begun (request : Request)
  | called (callback : κ)
  | answered (reply : ρ)
  | ended (outcome : Except Fault α)

/-- A session: the state, the operations that wait for a reply, the last first, and what
happened, the last first. -/
structure Session (Request σ κ ρ α : Type) where
  state : σ
  waiting : List (ρ → σ → Dialogue σ κ ρ α) := []
  history : List (Happening Request κ ρ α) := []

namespace Session

variable {Request σ κ ρ α : Type}

/-- Notes what happened. -/
def note (session : Session Request σ κ ρ α) (happening : Happening Request κ ρ α) :
    Session Request σ κ ρ α :=
  { session with history := happening :: session.history }

/-- Takes a dialogue on to its next callback or to its end. -/
def advance (session : Session Request σ κ ρ α) : Dialogue σ κ ρ α → Session Request σ κ ρ α
  | .done outcome state => { session with state } |>.note (.ended outcome)
  | .call callback state resume =>
    { session with state, waiting := resume :: session.waiting } |>.note (.called callback)

/-- The session after one move. An answer that no callback waits for changes nothing. -/
def step (perform : Request → Operation σ κ ρ α) (session : Session Request σ κ ρ α) :
    Move Request ρ → Session Request σ κ ρ α
  | .begin request => (session.note (.begun request)).advance (perform request session.state)
  | .answer reply =>
    match session.waiting with
    | [] => session
    | resume :: waiting =>
      ({ session with waiting }.note (.answered reply)).advance (resume reply session.state)

/-- The session after a list of moves. -/
def run (perform : Request → Operation σ κ ρ α) (session : Session Request σ κ ρ α)
    (moves : List (Move Request ρ)) : Session Request σ κ ρ α :=
  moves.foldl (step perform) session

/-- Whether no operation is under way. -/
def isIdle (session : Session Request σ κ ρ α) : Bool := session.waiting.isEmpty

end Session

end Breakpoint
