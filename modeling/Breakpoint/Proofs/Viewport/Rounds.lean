import Breakpoint.Proofs.Viewport.Registrations

/-!
# Rounds of calls

A viewport calls the observers of a new size in a round. An observer may set another size before its
call ends, and the round of that size is over before the earlier round goes on. So the rounds under
way stand on top of one another, and only the last of them moves.

The observers that were called and those that the rounds have still to call, the last round first,
make up one list. As long as no observer fails, only a new size adds to that list: the observers that
are registered when it is set come right after those that were called before. The size that they read
is at every moment the one that was set last.
-/

namespace Breakpoint.Viewport

open Operation

variable {ω : Type}

/-! ## Moves and what they lead to -/

/-- What the clients of a viewport do next. -/
abbrev ViewportMove (ω : Type) := Move (Request ω) (Except Fault Unit)

/-- The session of a new viewport after some moves. -/
def sessionAfter [DecidableEq ω] (width height : Extent) (moves : List (ViewportMove ω)) :
    ViewportSession ω :=
  Session.run perform { state := { width, height } } moves

/-- The size that an observer reads. -/
def size (viewport : Viewport ω) : Extent × Extent := (viewport.width, viewport.height)

/-- The observers that were called, the first first. -/
def calledIn (history : List (Happening (Request ω) ω (Except Fault Unit) Unit)) : List ω :=
  (history.filterMap fun
    | .called observer => some observer
    | .begun _ | .answered _ | .ended _ => none).reverse

/-- The size that a move sets. -/
def sizeSet? : ViewportMove ω → Option (Extent × Extent)
  | .begin (.setSize width height) => some (width, height)
  | .begin (.observe _) | .begin (.unobserve _) | .answer _ => none

/-- The sizes that some moves set, the first first. -/
def sizesIn (moves : List (ViewportMove ω)) : List (Extent × Extent) := moves.filterMap sizeSet?

/-- The observers that a move adds to those that are to be called: if it sets a size, all that are
registered. -/
def announced (viewport : Viewport ω) (move : ViewportMove ω) : List ω :=
  if (sizeSet? move).isSome then viewport.observers else []

/-- An observer that is called is the last that was. -/
theorem calledIn_called (observer : ω)
    (history : List (Happening (Request ω) ω (Except Fault Unit) Unit)) :
    calledIn (.called observer :: history) = calledIn history ++ [observer] :=
  List.reverse_cons

/-- A move that sets no size adds no one to those that are to be called. -/
theorem announced_of_sizeSet?_eq_none {viewport : Viewport ω} {move : ViewportMove ω}
    (h : sizeSet? move = none) : announced viewport move = [] := by
  rw [announced, h]
  rfl

/-- A new size takes the place of all that were set before. -/
theorem getLastD_sizesIn_cons (move : ViewportMove ω) (moves : List (ViewportMove ω))
    (before : Extent × Extent) :
    (sizesIn (move :: moves)).getLastD before =
      (sizesIn moves).getLastD ((sizeSet? move).getD before) := by
  cases hset : sizeSet? move with
  | none => rw [sizesIn, List.filterMap_cons_none hset, Option.getD_none, sizesIn]
  | some size =>
    rw [sizesIn, List.filterMap_cons_some hset, List.getLastD_cons, Option.getD_some, sizesIn]

/-! ## Rounds under way -/

/-- How a round that has these observers still to call goes on when a call ends. -/
def goOn (left : List ω) (reply : Except Fault Unit) (viewport : Viewport ω) :
    Dialogue (Viewport ω) ω (Except Fault Unit) Unit :=
  (lift reply >>= fun _ => forAll callOrFail left) viewport

/-- Whether these rounds are under way in a session, the last first, each given by the observers that
it has still to call. -/
def HasRounds (session : ViewportSession ω) (rounds : List (List ω)) : Prop :=
  session.waiting = rounds.map goOn

/-- A round calls its next observer. -/
theorem round_cons (observer : ω) (left : List ω) (viewport : Viewport ω) :
    forAll callOrFail (observer :: left) viewport = .call observer viewport (goOn left) := by
  simp only [forAll, callOrFail, bind_assoc]
  rfl

variable {session : ViewportSession ω} {rounds : List (List ω)}

/-- A round that goes on calls its next observer or is over. It calls its own observers before those
of the rounds below it. -/
theorem advance_round (h : HasRounds session rounds) (left : List ω)
    (viewport : Viewport ω) :
    let after := session.advance (forAll callOrFail left viewport)
    after.state = viewport ∧ ∃ later, HasRounds after later ∧
      calledIn after.history ++ later.flatten =
        calledIn session.history ++ (left ++ rounds.flatten) := by
  cases left with
  | nil => exact ⟨rfl, rounds, h, rfl⟩
  | cons observer left =>
    rw [round_cons]
    refine ⟨rfl, left :: rounds, congrArg (goOn left :: ·) h, ?_⟩
    show calledIn (.called observer :: session.history) ++ (left ++ rounds.flatten) = _
    rw [calledIn_called, List.append_assoc]
    rfl

variable [DecidableEq ω]

/-- What a move does. It sets the size or leaves it. If it does not end a call with a fault, no
observer that is to be called is dropped, and those that the move adds come before the others. -/
theorem exists_rounds_step (h : HasRounds session rounds) (move : ViewportMove ω) :
    let after := session.step perform move
    after.state.size = (sizeSet? move).getD session.state.size ∧
      ∃ later, HasRounds after later ∧
        ((∀ fault, move ≠ .answer (.error fault)) →
          calledIn after.history ++ later.flatten =
            calledIn session.history ++ (announced session.state move ++ rounds.flatten)) := by
  cases move with
  | begin request =>
    cases request with
    | observe observer => exact ⟨rfl, rounds, h, fun _ => rfl⟩
    | unobserve observer => exact ⟨rfl, rounds, h, fun _ => rfl⟩
    | setSize width height =>
      have hnoted : HasRounds (session.note (.begun (.setSize width height))) rounds := h
      obtain ⟨hstate, later, hlater, hcalled⟩ :=
        advance_round hnoted session.state.observers (session.state.resize width height)
      exact ⟨congrArg size hstate, later, hlater, fun _ => hcalled⟩
  | answer reply =>
    obtain ⟨state, waiting, history⟩ := session
    obtain rfl : waiting = rounds.map goOn := h
    -- Only the round on top goes on. The rounds below it stay as they are.
    cases rounds with
    | nil => exact ⟨rfl, [], rfl, fun _ => rfl⟩
    | cons left rounds =>
      cases reply with
      | error fault => exact ⟨rfl, rounds, rfl, fun hfaultless => absurd rfl (hfaultless fault)⟩
      | ok result =>
        let answered : ViewportSession ω :=
          ⟨state, rounds.map goOn, .answered (.ok result) :: history⟩
        have hrounds : HasRounds answered rounds := rfl
        obtain ⟨hstate, later, hlater, hcalled⟩ := advance_round hrounds left state
        exact ⟨congrArg size hstate, later, hlater, fun _ => hcalled⟩

/-- After some moves the size is the last that they have set, whatever the observers do. -/
theorem size_run (h : HasRounds session rounds) (moves : List (ViewportMove ω)) :
    let after := session.run perform moves
    after.state.size = (sizesIn moves).getLastD session.state.size ∧
      ∃ later, HasRounds after later := by
  induction moves generalizing session rounds with
  | nil => exact ⟨rfl, rounds, h⟩
  | cons move moves ih =>
    obtain ⟨hsize, middle, hmiddle, -⟩ := exists_rounds_step h move
    obtain ⟨hlast, hlater⟩ := ih hmiddle
    refine ⟨hlast.trans ?_, hlater⟩
    rw [hsize, getLastD_sizesIn_cons]

/-- Until another size is set or an observer fails, the observers that are called are those that the
rounds have to call, in this order. -/
theorem called_run (h : HasRounds session rounds) {moves : List (ViewportMove ω)}
    (hsizes : sizesIn moves = []) (hfaultless : ∀ fault, .answer (.error fault) ∉ moves) :
    let after := session.run perform moves
    ∃ later, HasRounds after later ∧
      calledIn after.history ++ later.flatten = calledIn session.history ++ rounds.flatten := by
  induction moves generalizing session rounds with
  | nil => exact ⟨rounds, h, rfl⟩
  | cons move moves ih =>
    rw [sizesIn, List.filterMap_eq_nil_iff, List.forall_mem_cons] at hsizes
    obtain ⟨-, middle, hmiddle, hstep⟩ := exists_rounds_step h move
    obtain ⟨later, hlater, hrest⟩ := ih hmiddle (List.filterMap_eq_nil_iff.2 hsizes.2)
      fun fault hfault => hfaultless fault (List.mem_cons_of_mem _ hfault)
    have hmove : ∀ fault, move ≠ .answer (.error fault) := by
      rintro fault rfl
      exact hfaultless fault List.mem_cons_self
    have hcalled := hstep hmove
    rw [announced_of_sizeSet?_eq_none hsizes.1, List.nil_append] at hcalled
    exact ⟨later, hlater, hrest.trans hcalled⟩

/-! ## The final size -/

/-- No observer misses the final size. At every moment the size that observers read is the last that
was set. When no size is being set any more, those that were registered when the last one was set
have been called since, each as often as it was registered and before all others, if no observer has
failed since. -/
theorem final_size_reaches_observers (width height : Extent) (moves : List (ViewportMove ω)) :
    let session : List (ViewportMove ω) → ViewportSession ω := sessionAfter width height
    (∀ earlier later, moves = earlier ++ later →
        (session earlier).state.size = (sizesIn earlier).getLastD (width, height)) ∧
      ∀ earlier newWidth newHeight later,
        moves = earlier ++ .begin (.setSize newWidth newHeight) :: later → sizesIn later = [] →
          (∀ fault, .answer (.error fault) ∉ later) → (session moves).isIdle = true →
            calledIn (session earlier).history ++ (session earlier).state.observers <+:
              calledIn (session moves).history := by
  intro session
  have hnew : HasRounds ({ state := { width, height } } : ViewportSession ω) [] := rfl
  have hrun : ∀ moves, (session moves).state.size = (sizesIn moves).getLastD (width, height) ∧
      ∃ rounds, HasRounds (session moves) rounds :=
    size_run hnew
  refine ⟨fun earlier _ _ => (hrun earlier).1, ?_⟩
  rintro earlier newWidth newHeight later rfl hsizes hfaultless hidle
  obtain ⟨-, rounds, hrounds⟩ := hrun earlier
  obtain ⟨-, begun, hbegun, hset⟩ :=
    exists_rounds_step hrounds (.begin (.setSize newWidth newHeight))
  obtain ⟨left, hleft, hcalled⟩ := called_run hbegun hsizes hfaultless
  have hafter : session (earlier ++ .begin (.setSize newWidth newHeight) :: later) =
      ((session earlier).step perform (.begin (.setSize newWidth newHeight))).run perform later :=
    List.foldl_append
  rw [← hafter] at hleft hcalled
  have hnone : left = [] := by
    rw [HasRounds, List.isEmpty_iff.1 hidle] at hleft
    exact List.map_eq_nil_iff.1 hleft.symm
  rw [hnone, List.flatten_nil, List.append_nil, hset nofun, ← List.append_assoc] at hcalled
  exact ⟨rounds.flatten, hcalled.symm⟩

/-- While it is called, observer 1 ends the registration of observer 2, registers observer 3 and sets
another size. The round of that size calls 1 and 3, and then the first round still calls 2. -/
theorem nested_size_reaches_observers :
    let earlier : List (ViewportMove Nat) :=
      [.begin (.observe 1), .begin (.observe 2), .begin (.setSize ⟨600, false⟩ ⟨800, false⟩),
        .begin (.unobserve 2), .begin (.observe 3)]
    let later : List (ViewportMove Nat) :=
      [.answer (.ok ()), .answer (.ok ()), .answer (.ok ()), .answer (.ok ())]
    let moves := earlier ++ .begin (.setSize ⟨500, false⟩ ⟨400, false⟩) :: later
    let session : List (ViewportMove Nat) → ViewportSession Nat :=
      sessionAfter ⟨640, false⟩ ⟨480, false⟩
    (sizesIn later = [] ∧ (∀ fault, .answer (.error fault) ∉ later) ∧
        (session moves).isIdle = true) ∧
      (session moves).state.size = (⟨500, false⟩, ⟨400, false⟩) ∧
      (session earlier).state.observers = [1, 3] ∧
      calledIn (session moves).history = [1, 1, 3, 2] ∧
      calledIn (session earlier).history ++ (session earlier).state.observers <+:
        calledIn (session moves).history := by
  intro earlier later moves session
  have hfaultless : ∀ fault, .answer (.error fault) ∉ later := by
    intro fault hfault
    simp [later] at hfault
  obtain ⟨hsize, hcalled⟩ := final_size_reaches_observers ⟨640, false⟩ ⟨480, false⟩ moves
  refine ⟨⟨rfl, hfaultless, rfl⟩, ?_, rfl, rfl, ?_⟩
  · exact hsize moves [] (List.append_nil moves).symm
  · exact hcalled earlier ⟨500, false⟩ ⟨400, false⟩ later rfl rfl hfaultless rfl

end Breakpoint.Viewport
