import Breakpoint.Proofs.Engine.SweepOutline

/-!
# The stages of a sweep

Between two callbacks a sweep goes on in single steps: a pass begins, a handle is visited, an
answer changes, the listeners are looked up, a dispatch ends. A stage is a place between two
steps, together with all that the sweep remembers there. A step leads from one stage to the next
and leaves what the sweep has still to do the same, so that a sweep can be followed from any
callback to the next one, whatever its host did to the state meanwhile.
-/

namespace Breakpoint.Engine

open Operation

/-- The passes that a limit allows after the first, unless it cannot be compared. -/
def furtherPasses : FollowUpLimit → Option Nat
  | .atMost limit => some limit.toNat
  | .incomparable => none

/-- A pass among those of its sweep: how many were begun before it, and how many may follow, if
that can be told. -/
structure Round where
  reason : SweepReason
  before : Nat
  allowed : Option Nat

/-- A pass that visits handles, with the size and the preferences that it took. -/
structure Tour where
  round : Round
  size : Extent × Extent
  host : Preferences

/-- A dispatch of an event, and the handles that its pass has still to visit. -/
structure Announcement where
  tour : Tour
  rest : List Nat
  number : Nat
  event : ChangeEvent

/-- A place between two steps of a sweep. -/
inductive Stage where
  /-- A pass is about to begin. -/
  | starting (round : Round)
  | visiting (tour : Tour) (rest : List Nat)
  /-- An answer was changed, and the slot of the handle is looked up next. -/
  | opening (announcement : Announcement)
  /-- The slot is done with, and the listeners are looked up next. -/
  | listing (announcement : Announcement)
  | telling (announcement : Announcement) (left : List Listener)
  /-- All handles of a pass were visited. -/
  | passed (round : Round)
  | closing (outcome : Except Fault Unit)

/-- What a sweep does after a pass. -/
def Round.onward (round : Round) : Act Unit := do
  if (← Operation.get).followUpRequested then
    match round.allowed with
    | none => Operation.fail .wrongKind
    | some 0 => giveUp round.reason (round.before + 1)
    | some (allowed + 1) => passes round.reason allowed (round.before + 1)

/-- What a sweep does from a tour on. -/
def Tour.onward (tour : Tour) (rest : List Nat) : Act Unit := do
  forAll (updateHandle tour.size tour.host) rest
  tour.round.onward

/-- What a sweep does after a dispatch. -/
def Announcement.onward (announcement : Announcement) : Act Unit := do
  Operation.modify (·.note (.dispatchEnded announcement.number))
  announcement.tour.onward announcement.rest

/-- What a sweep does from a stage on. -/
def Stage.program : Stage → Act Unit
  | .starting round => do
    pass
    round.onward
  | .visiting tour rest => tour.onward rest
  | .opening announcement => do
    dispatch announcement.number announcement.event
    announcement.onward
  | .listing announcement => do
    tellListeners announcement.number announcement.event
    announcement.onward
  | .telling announcement left => do
    forAll (tell "listener" announcement.number announcement.event) left
    announcement.onward
  | .passed round => round.onward
  | .closing outcome => Operation.lift outcome

/-- A row of passes is what is left of a sweep where it starts one. -/
theorem passes_eq_program (reason : SweepReason) (allowed count : Nat) :
    passes reason allowed count = (Stage.starting ⟨reason, count, some allowed⟩).program := by
  cases allowed <;> rfl

/-- The first stage of a sweep. -/
def firstStage (reason : SweepReason) (limit : FollowUpLimit) : Stage :=
  .starting ⟨reason, 0, furtherPasses limit⟩

/-- A sweep is what is left of it at its first stage. -/
theorem allPasses_eq_program (reason : SweepReason) (limit : FollowUpLimit) :
    allPasses reason limit = (firstStage reason limit).program := by
  cases limit with
  | atMost limit => exact passes_eq_program reason limit.toNat 0
  | incomparable => rfl

/-! ## Steps -/

/-- The record of a viewport that fails to tell its size. -/
def sizeFailure (fault : Fault) : LogRecord :=
  ⟨.error, .engine, "Failed to read the preview viewport size", some fault⟩

/-- The records of asking the host for its preferences. -/
def hostRecords (engine : Engine) : List LogRecord :=
  match engine.host with
  | .known _ => []
  | .failing =>
    [⟨.error, .engine, "Failed to read host preferences; using defaults", some (.raised "")⟩]

/-- The records about the host are of errors. -/
theorem level_hostRecords {engine : Engine} {record : LogRecord}
    (h : record ∈ engine.hostRecords) : record.level = .error := by
  rw [hostRecords] at h
  split at h
  · cases h
  · cases List.mem_singleton.1 h
    rfl

/-- The listener in the slot of a handle. -/
def slot (engine : Engine) (number : Nat) : Option Listener :=
  (engine.handle? number).bind (·.onChange)

/-- The listeners of a handle, in order. -/
def listeners (engine : Engine) (number : Nat) : List Listener :=
  (engine.handle? number).elim [] (·.listeners)

/-- The fault of a size that is not of two numbers. -/
inductive Misread : Except Fault Extent × Except Fault Extent → Fault → Prop where
  | width (fault : Fault) (height : Except Fault Extent) : Misread (.error fault, height) fault
  | height (width : Extent) (fault : Fault) : Misread (.ok width, .error fault) fault

/-- One step of a sweep that calls no one. -/
inductive Stage.Step : Stage → Engine → Stage → Engine → Prop where
  | unreadable {round : Round} {engine : Engine} {fault : Fault}
      (hsize : engine.providedSize = .error fault) :
      Step (.starting round) engine (.passed round)
        (engine.beginPass.note (.record (sizeFailure fault)))
  | misread {round : Round} {engine : Engine} {size : Except Fault Extent × Except Fault Extent}
      {fault : Fault} (hsize : engine.providedSize = .ok size) (hfault : Misread size fault) :
      Step (.starting round) engine (.closing (.error fault)) engine.beginPass
  | reads {round : Round} {engine : Engine} {width height : Extent}
      (hsize : engine.providedSize = .ok (.ok width, .ok height)) :
      Step (.starting round) engine
        (.visiting ⟨round, (width, height), engine.preferences⟩ engine.registered)
        (engine.beginPass.noteRecords engine.hostRecords)
  | skips {tour : Tour} {number : Nat} {rest : List Nat} {engine : Engine}
      (hsame : ∀ handle query, engine.handle? number = some handle → handle.query = some query →
        handle.isDetached = false →
          query.evaluate (engine.surroundings tour.size tour.host) = .ok handle.isMatch) :
      Step (.visiting tour (number :: rest)) engine (.visiting tour rest) engine
  | fails {tour : Tour} {number : Nat} {rest : List Nat} {engine : Engine} {handle : Handle}
      {query : Query} {fault : Fault} (hhandle : engine.handle? number = some handle)
      (hquery : handle.query = some query) (hattached : handle.isDetached = false)
      (hfault : query.evaluate (engine.surroundings tour.size tour.host) = .error fault) :
      Step (.visiting tour (number :: rest)) engine (.closing (.error fault)) engine
  | changes {tour : Tour} {number : Nat} {rest : List Nat} {engine : Engine} {handle : Handle}
      {query : Query} {isMatch : Bool} (hhandle : engine.handle? number = some handle)
      (hquery : handle.query = some query) (hattached : handle.isDetached = false)
      (hanswer : query.evaluate (engine.surroundings tour.size tour.host) = .ok isMatch)
      (hchange : isMatch ≠ handle.isMatch) :
      Step (.visiting tour (number :: rest)) engine
        (.opening ⟨tour, rest, number, ⟨isMatch, handle.media⟩⟩)
        (engine.changeAnswer number isMatch)
  | visited {tour : Tour} {engine : Engine} :
      Step (.visiting tour []) engine (.passed tour.round) engine
  | unslotted {announcement : Announcement} {engine : Engine}
      (hslot : engine.slot announcement.number = none) :
      Step (.opening announcement) engine (.listing announcement) engine
  | lists {announcement : Announcement} {engine : Engine} :
      Step (.listing announcement) engine
        (.telling announcement (engine.listeners announcement.number)) engine
  | closes {announcement : Announcement} {engine : Engine} :
      Step (.telling announcement []) engine (.visiting announcement.tour announcement.rest)
        (engine.note (.dispatchEnded announcement.number))
  | rests {round : Round} {engine : Engine} (hrequest : engine.followUpRequested = false) :
      Step (.passed round) engine (.closing (.ok ())) engine
  | stalls {round : Round} {engine : Engine} (hrequest : engine.followUpRequested = true)
      (hallowed : round.allowed = none) :
      Step (.passed round) engine (.closing (.error .wrongKind)) engine
  | givesUp {round : Round} {engine : Engine} (hrequest : engine.followUpRequested = true)
      (hallowed : round.allowed = some 0) :
      Step (.passed round) engine (.closing (.ok ()))
        (engine.note (.record (followUpWarning round.reason (round.before + 1)))).dropFollowUp
  | follows {round : Round} {engine : Engine} {allowed : Nat}
      (hrequest : engine.followUpRequested = true) (hallowed : round.allowed = some (allowed + 1)) :
      Step (.passed round) engine (.starting ⟨round.reason, round.before + 1, some allowed⟩) engine

variable {stage next : Stage} {engine after : Engine}

/-- Reading the size ends at once. -/
theorem readSize_eq (engine : Engine) :
    readSize engine =
      match engine.providedSize with
      | .error fault => .done (.ok none) (engine.note (.record (sizeFailure fault)))
      | .ok (.error fault, _) => .done (.error fault) engine
      | .ok (.ok _, .error fault) => .done (.error fault) engine
      | .ok (.ok width, .ok height) => .done (.ok (some (width, height))) engine := by
  simp only [readSize, get_bind]
  cases engine.providedSize with
  | error fault => rfl
  | ok size =>
    obtain ⟨width, height⟩ := size
    cases width with
    | error fault => rfl
    | ok width => cases height <;> rfl

/-- Reading the preferences of the host ends at once. -/
theorem readHost_eq (engine : Engine) :
    readHost engine = .done (.ok engine.preferences) (engine.noteRecords engine.hostRecords) := by
  simp only [readHost, hostRecords, get_bind]
  cases engine.host <;> rfl

/-- A visit of a handle that is not detached and has a query. -/
theorem updateHandle_eq {size : Extent × Extent} {host : Preferences} {number : Nat}
    {handle : Handle} {query : Query} (hhandle : engine.handle? number = some handle)
    (hquery : handle.query = some query) (hattached : handle.isDetached = false) :
    updateHandle size host number engine =
      (Operation.lift (query.evaluate (engine.surroundings size host)) >>= fun isMatch =>
        if isMatch = handle.isMatch then pure ()
        else do
          Operation.modify (·.changeAnswer number isMatch)
          dispatch number ⟨isMatch, handle.media⟩
          Operation.modify (·.note (.dispatchEnded number)) : Act Unit) engine := by
  simp only [updateHandle, get_bind, hhandle, hquery, hattached, Bool.false_eq_true, if_false,
    answer, bind_assoc]

/-- A handle that has the right answer, or needs none, is left alone. -/
theorem updateHandle_of_same {size : Extent × Extent} {host : Preferences} {number : Nat}
    (hsame : ∀ handle query, engine.handle? number = some handle → handle.query = some query →
      handle.isDetached = false →
        query.evaluate (engine.surroundings size host) = .ok handle.isMatch) :
    updateHandle size host number engine = .done (.ok ()) engine := by
  cases hhandle : engine.handle? number with
  | none =>
    simp only [updateHandle, get_bind, hhandle]
    rfl
  | some handle =>
    cases hquery : handle.query with
    | none =>
      simp only [updateHandle, get_bind, hhandle, hquery]
      rfl
    | some query =>
      cases hdetached : handle.isDetached with
      | true =>
        simp only [updateHandle, get_bind, hhandle, hquery, hdetached, if_true]
        rfl
      | false =>
        have hanswer := hsame handle query hhandle hquery hdetached
        rw [updateHandle_eq hhandle hquery hdetached, hanswer]
        refine (bind_of_done rfl).trans ?_
        rw [if_pos rfl, pure_apply]

/-- A pass that can read the size visits the handles that are registered then. -/
theorem pass_eq {width height : Extent} (hsize : engine.providedSize = .ok (.ok width, .ok height)) :
    pass engine =
      forAll (updateHandle (width, height) engine.preferences) engine.registered
        (engine.beginPass.noteRecords engine.hostRecords) := by
  have hread : readSize engine.beginPass = .done (.ok (some (width, height))) engine.beginPass := by
    have hprovided : engine.beginPass.providedSize = .ok (.ok width, .ok height) := hsize
    rw [readSize_eq, hprovided]
  simp only [pass, modify_bind]
  rw [bind_of_done hread]
  exact bind_of_done (readHost_eq engine.beginPass)

/-- A pass whose size has a member that is no number ends with its fault. -/
theorem pass_of_misread {size : Except Fault Extent × Except Fault Extent} {fault : Fault}
    (hsize : engine.providedSize = .ok size) (hfault : Misread size fault) :
    pass engine = .done (.error fault) engine.beginPass := by
  have hread : readSize engine.beginPass = .done (.error fault) engine.beginPass := by
    have hprovided : engine.beginPass.providedSize = .ok size := hsize
    rw [readSize_eq, hprovided]
    cases hfault <;> rfl
  simp only [pass, modify_bind]
  exact bind_of_fault hread

/-- A pass that cannot read the size visits no handle. -/
theorem pass_of_unreadable {fault : Fault} (hsize : engine.providedSize = .error fault) :
    pass engine = .done (.ok ()) (engine.beginPass.note (.record (sizeFailure fault))) := by
  have hread : readSize engine.beginPass =
      .done (.ok none) (engine.beginPass.note (.record (sizeFailure fault))) := by
    have hprovided : engine.beginPass.providedSize = .error fault := hsize
    rw [readSize_eq, hprovided]
  simp only [pass, modify_bind]
  exact bind_of_done hread

/-- A sweep goes on after a pass if it is asked to. -/
theorem Round.onward_eq (round : Round) (engine : Engine) :
    round.onward engine =
      if engine.followUpRequested then
        match round.allowed with
        | none => .done (.error .wrongKind) engine
        | some 0 => giveUp round.reason (round.before + 1) engine
        | some (allowed + 1) => passes round.reason allowed (round.before + 1) engine
      else .done (.ok ()) engine := by
  obtain ⟨reason, before, allowed⟩ := round
  cases hrequest : engine.followUpRequested with
  | false => simp only [onward, get_bind, hrequest, Bool.false_eq_true, if_false, pure_apply]
  | true =>
    simp only [onward, get_bind, hrequest, if_true]
    match allowed with
    | none => rfl
    | some 0 => rfl
    | some (allowed + 1) => rfl

/-- What follows two operations that do the same does the same. -/
theorem bind_eq_bind {α β : Type} {first second : Act α} (next : α → Act β)
    (h : first engine = second after) : (first >>= next) engine = (second >>= next) after := by
  show (first engine).andThen _ = (second after).andThen _
  rw [h]

/-- A step leaves what the sweep has still to do the same. -/
theorem Stage.Step.program_eq (h : stage.Step engine next after) :
    stage.program engine = next.program after := by
  cases h with
  | unreadable hsize => exact bind_of_done (pass_of_unreadable hsize)
  | misread hsize hfault => exact bind_of_fault (pass_of_misread hsize hfault)
  | reads hsize => exact bind_eq_bind _ (pass_eq hsize)
  | skips hsame =>
    simp only [Stage.program, Tour.onward, forAll, bind_assoc]
    exact bind_of_done (updateHandle_of_same hsame)
  | fails hhandle hquery hattached hfault =>
    simp only [Stage.program, Tour.onward, forAll, bind_assoc]
    apply bind_of_fault
    rw [updateHandle_eq hhandle hquery hattached, hfault]
    rfl
  | @changes tour number rest engine handle query isMatch hhandle hquery hattached hanswer hchange =>
    -- the visit is cut where its dispatch begins
    have hvisit : updateHandle tour.size tour.host number engine =
        (do
          dispatch number ⟨isMatch, handle.media⟩
          Operation.modify (·.note (.dispatchEnded number)) : Act Unit)
            (engine.changeAnswer number isMatch) := by
      rw [updateHandle_eq hhandle hquery hattached, hanswer]
      refine (bind_of_done rfl).trans ?_
      rw [if_neg hchange, modify_bind]
    have hrest := bind_eq_bind (fun _ => tour.onward rest) hvisit
    simp only [Stage.program, Announcement.onward, Tour.onward, forAll, bind_assoc] at hrest ⊢
    exact hrest
  | visited => rfl
  | @unslotted announcement engine hslot =>
    simp only [Stage.program, dispatch, bind_assoc, get_bind]
    rw [slot] at hslot
    rw [hslot]
  | @lists announcement engine =>
    simp only [Stage.program, tellListeners, listeners, bind_assoc, get_bind]
    cases engine.handle? announcement.number <;> rfl
  | closes => rfl
  | @rests round engine hrequest =>
    refine (round.onward_eq engine).trans ?_
    rw [if_neg (by simp [hrequest])]
    rfl
  | @stalls round engine hrequest hallowed =>
    refine (round.onward_eq engine).trans ?_
    rw [if_pos hrequest, hallowed]
    rfl
  | @givesUp round engine hrequest hallowed =>
    refine (round.onward_eq engine).trans ?_
    rw [if_pos hrequest, hallowed]
    rfl
  | @follows round engine allowed hrequest hallowed =>
    refine (round.onward_eq engine).trans ?_
    rw [if_pos hrequest, hallowed]
    exact congrFun (passes_eq_program _ _ _) engine

/-! ## Calls -/

/-- A listener of a dispatch that was called: the one in the slot, or one of the listeners, with
those that are told after it. -/
inductive Turn where
  | slot (announcement : Announcement)
  | listed (announcement : Announcement) (left : List Listener)

/-- The dispatch in which a listener is called. -/
def Turn.announcement : Turn → Announcement
  | .slot announcement => announcement
  | .listed announcement _ => announcement

/-- As what the listener was registered. -/
def Turn.role : Turn → Text
  | .slot _ => "onchange"
  | .listed _ _ => "listener"

/-- The stage with which the sweep goes on after the call. -/
def Turn.continued : Turn → Stage
  | .slot announcement => .listing announcement
  | .listed announcement left => .telling announcement left

/-- The record of a listener that fails. -/
def Turn.failure (turn : Turn) (fault : Fault) : LogRecord :=
  ⟨.error, .engine, "Error in media query " ++ turn.role ++ " for "
    ++ Text.quoted turn.announcement.event.media, some fault⟩

/-- The reply of a listener is recorded if it is a fault. -/
def Turn.hear (turn : Turn) (reply : Except Fault Unit) (engine : Engine) : Engine :=
  match reply with
  | .ok _ => engine
  | .error fault => engine.note (.record (turn.failure fault))

/-- The stage calls a listener. -/
inductive Stage.Calls : Stage → Engine → Turn → Listener → Prop where
  | slot {announcement : Announcement} {engine : Engine} {listener : Listener}
      (hslot : engine.slot announcement.number = some listener) :
      Calls (.opening announcement) engine (.slot announcement) listener
  | listed {announcement : Announcement} {engine : Engine} {listener : Listener}
      {left : List Listener} :
      Calls (.telling announcement (listener :: left)) engine (.listed announcement left) listener

/-- The callback that tells a listener its event. -/
def Announcement.callback (announcement : Announcement) (listener : Listener) : Callback :=
  callbackFor announcement.number announcement.event listener

/-- The engine that has called a listener of a dispatch. -/
def noteTurn (engine : Engine) (announcement : Announcement) (listener : Listener) : Engine :=
  engine.noteTold announcement.number announcement.event listener

/-- Telling a listener calls it and records its fault. -/
theorem tell_eq (turn : Turn) (listener : Listener) (engine : Engine) :
    tell turn.role turn.announcement.number turn.announcement.event listener engine =
      .call (turn.announcement.callback listener) (engine.noteTurn turn.announcement listener)
        fun reply after => .done (.ok ()) (turn.hear reply after) := by
  simp only [tell, modify_bind]
  show Dialogue.call _ _ _ = Dialogue.call _ _ _
  congr 1
  funext reply after
  cases reply <;> rfl

/-- A stage that calls a listener goes on with the reply. -/
theorem Stage.Calls.program_eq {turn : Turn} {listener : Listener}
    (h : stage.Calls engine turn listener) :
    stage.program engine =
      .call (turn.announcement.callback listener) (engine.noteTurn turn.announcement listener)
        fun reply after => turn.continued.program (turn.hear reply after) := by
  have hcall : ∀ next : Unit → Act Unit,
      (tell turn.role turn.announcement.number turn.announcement.event listener >>= next) engine =
        .call (turn.announcement.callback listener) (engine.noteTurn turn.announcement listener)
          fun reply after => next () (turn.hear reply after) := by
    intro next
    show (tell _ _ _ _ engine).andThen _ = _
    rw [tell_eq]
    rfl
  cases h with
  | @slot announcement engine listener hslot =>
    simp only [Stage.program, dispatch, bind_assoc, get_bind]
    rw [Engine.slot] at hslot
    rw [hslot]
    simp only [bind_assoc]
    exact hcall _
  | listed =>
    simp only [Stage.program, forAll, bind_assoc]
    exact hcall _

/-! ## Stretches between two calls -/

/-- The sweep goes on from one stage to another without a call. -/
inductive Stage.Reaches : Stage → Engine → Stage → Engine → Prop where
  | refl (stage : Stage) (engine : Engine) : Reaches stage engine stage engine
  | step {first second third : Stage} {before middle after : Engine}
      (hstep : first.Step before second middle) (hrest : second.Reaches middle third after) :
      Reaches first before third after

/-- What every step keeps is kept up to any stage that is reached. -/
theorem Stage.Reaches.induct {holds : Stage → Engine → Prop}
    (hkeeps : ∀ {stage next engine after}, stage.Step engine next after → holds stage engine →
      holds next after)
    (h : stage.Reaches engine next after) (hstart : holds stage engine) : holds next after := by
  induction h with
  | refl stage engine => exact hstart
  | step hstep hrest ih => exact ih (hkeeps hstep hstart)

/-- What the sweep has still to do is the same at every stage that is reached. -/
theorem Stage.Reaches.program_eq (h : stage.Reaches engine next after) :
    stage.program engine = next.program after := by
  induction h with
  | refl stage engine => rfl
  | step hstep hrest ih => exact hstep.program_eq.trans ih

/-- The sweep stands where it has ended or calls a listener. -/
inductive Stage.Stops : Stage → Engine → Prop where
  | ended (outcome : Except Fault Unit) (engine : Engine) : Stops (.closing outcome) engine
  | calls {stage : Stage} {engine : Engine} {turn : Turn} {listener : Listener}
      (hcalls : stage.Calls engine turn listener) : Stops stage engine

/-- The sweep comes to a stop. -/
def Stage.Halts (stage : Stage) (engine : Engine) : Prop :=
  ∃ stop after, stage.Reaches engine stop after ∧ stop.Stops after

/-- A sweep comes to a stop if it does after a step. -/
theorem Stage.Step.halts (hstep : stage.Step engine next after) (h : next.Halts after) :
    stage.Halts engine := by
  obtain ⟨stop, last, hreaches, hstops⟩ := h
  exact ⟨stop, last, .step hstep hreaches, hstops⟩

/-- A sweep that closes comes to a stop. -/
theorem halts_closing (outcome : Except Fault Unit) (engine : Engine) :
    (Stage.closing outcome).Halts engine :=
  ⟨_, engine, .refl _ engine, .ended outcome engine⟩

/-- A sweep that tells its listeners comes to a stop if the tour does. -/
theorem halts_telling {announcement : Announcement}
    (hrest : ∀ engine, (Stage.visiting announcement.tour announcement.rest).Halts engine)
    (left : List Listener) (engine : Engine) : (Stage.telling announcement left).Halts engine := by
  cases left with
  | nil => exact Stage.Step.closes.halts (hrest _)
  | cons listener left => exact ⟨_, engine, .refl _ engine, .calls .listed⟩

/-- A sweep that opens a dispatch comes to a stop if the tour does. -/
theorem halts_opening {announcement : Announcement}
    (hrest : ∀ engine, (Stage.visiting announcement.tour announcement.rest).Halts engine)
    (engine : Engine) : (Stage.opening announcement).Halts engine := by
  cases hslot : engine.slot announcement.number with
  | none =>
    exact (Stage.Step.unslotted hslot).halts (Stage.Step.lists.halts (halts_telling hrest _ engine))
  | some listener => exact ⟨_, engine, .refl _ engine, .calls (.slot hslot)⟩

/-- A tour comes to a stop if the sweep does after it. -/
theorem halts_visiting {tour : Tour} (hpassed : ∀ engine, (Stage.passed tour.round).Halts engine)
    (rest : List Nat) (engine : Engine) : (Stage.visiting tour rest).Halts engine := by
  induction rest generalizing engine with
  | nil => exact Stage.Step.visited.halts (hpassed engine)
  | cons number rest ih =>
    by_cases hsame : ∀ handle query, engine.handle? number = some handle →
      handle.query = some query → handle.isDetached = false →
        query.evaluate (engine.surroundings tour.size tour.host) = .ok handle.isMatch
    · exact (Stage.Step.skips hsame).halts (ih engine)
    · simp only [Classical.not_forall] at hsame
      obtain ⟨handle, query, hhandle, hquery, hattached, hother⟩ := hsame
      cases hanswer : query.evaluate (engine.surroundings tour.size tour.host) with
      | error fault =>
        exact (Stage.Step.fails hhandle hquery hattached hanswer).halts (halts_closing _ _)
      | ok isMatch =>
        have hchange : isMatch ≠ handle.isMatch := by
          rintro rfl
          exact hother hanswer
        exact (Stage.Step.changes hhandle hquery hattached hanswer hchange).halts
          (halts_opening ih _)

/-- A pass comes to a stop if the sweep does after it. -/
theorem halts_starting {round : Round} (hpassed : ∀ engine, (Stage.passed round).Halts engine)
    (engine : Engine) : (Stage.starting round).Halts engine := by
  match hsize : engine.providedSize with
  | .error fault => exact (Stage.Step.unreadable hsize).halts (hpassed _)
  | .ok (.error fault, height) =>
    exact (Stage.Step.misread hsize (.width fault height)).halts (halts_closing _ _)
  | .ok (.ok width, .error fault) =>
    exact (Stage.Step.misread hsize (.height width fault)).halts (halts_closing _ _)
  | .ok (.ok width, .ok height) =>
    exact (Stage.Step.reads hsize).halts (halts_visiting hpassed _ _)

/-- A sweep comes to a stop after a pass. -/
theorem halts_passed (round : Round) (engine : Engine) : (Stage.passed round).Halts engine := by
  obtain ⟨reason, before, allowed⟩ := round
  cases hrequest : engine.followUpRequested with
  | false => exact (Stage.Step.rests hrequest).halts (halts_closing _ _)
  | true =>
    cases allowed with
    | none => exact (Stage.Step.stalls hrequest rfl).halts (halts_closing _ _)
    | some allowed =>
      -- fewer passes are left each time, whatever the listeners have made of the engine
      induction allowed generalizing before engine with
      | zero => exact (Stage.Step.givesUp hrequest rfl).halts (halts_closing _ _)
      | succ allowed ih =>
        refine (Stage.Step.follows hrequest rfl).halts (halts_starting (fun engine => ?_) engine)
        cases hagain : engine.followUpRequested with
        | false => exact (Stage.Step.rests hagain).halts (halts_closing _ _)
        | true => exact ih engine (before + 1) hagain

/-- Every stage leads to a stop, whatever the engine is like. -/
theorem Stage.halts (stage : Stage) (engine : Engine) : stage.Halts engine := by
  have hvisiting : ∀ tour rest engine, (Stage.visiting tour rest).Halts engine :=
    fun tour => halts_visiting (halts_passed tour.round)
  cases stage with
  | starting round => exact halts_starting (halts_passed round) engine
  | visiting tour rest => exact hvisiting tour rest engine
  | opening announcement => exact halts_opening (hvisiting _ _) engine
  | listing announcement => exact Stage.Step.lists.halts (halts_telling (hvisiting _ _) _ engine)
  | telling announcement left => exact halts_telling (hvisiting _ _) left engine
  | passed round => exact halts_passed round engine
  | closing outcome => exact halts_closing outcome engine

end Breakpoint.Engine
