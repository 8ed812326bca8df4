import Breakpoint.Proofs.Engine.Finality
import Breakpoint.Proofs.Engine.Stages

/-!
# Sessions, move by move

The operations that wait in a session are suspended dispatches and first deliveries of bindings,
each of which goes on in a known way when its callback is answered. So every move of the host has
one of a few outsets: a change that is made at once, a delivery, or a sweep that begins, or goes
on, at some stage and runs to its next stop.
-/

namespace Breakpoint.Engine

open Operation

/-! ## What waits -/

/-- A sweep from a stage on, and its answer to the request that it was begun for. -/
def Stage.operation (stage : Stage) (answer : Answer) : Act Answer :=
  (fun _ => answer) <$> stage.program.ensuring (·.endSweep)

/-- An operation that waits for the reply to a callback. -/
inductive Suspension where
  /-- A sweep whose listener was called. -/
  | telling (turn : Turn) (answer : Answer)
  /-- A binding that listens to a handle once its first delivery succeeds. -/
  | joining (binding : Nat) (receiver : Text) (number : Nat)
  /-- A binding whose query could not be asked for. -/
  | refused (binding : Nat)

/-- What a suspended operation does with the reply. -/
def Suspension.resume : Suspension → Except Fault Unit → Engine →
    Dialogue Engine Callback (Except Fault Unit) Answer
  | .telling turn answer, reply, engine =>
    turn.continued.operation answer (turn.hear reply engine)
  | .joining binding receiver number, .ok _, engine =>
    .done (.ok (.binding binding))
      ((engine.listen number (some (.bound binding receiver))).joinBinding binding number)
  | .joining _ _ _, .error fault, engine => .done (.error fault) engine
  | .refused binding, reply, engine => .done (reply.map fun _ => .binding binding) engine

variable {stage stop : Stage} {engine after : Engine}

/-- A sweep does the same from where it goes on without a call. -/
theorem Stage.Reaches.operation_eq (h : stage.Reaches engine stop after) (answer : Answer) :
    stage.operation answer engine = stop.operation answer after := by
  show Dialogue.andThen (Dialogue.andThen _ _) _ = Dialogue.andThen (Dialogue.andThen _ _) _
  rw [h.program_eq]

/-- A sweep that closes ends with its outcome. -/
theorem operation_closing (outcome : Except Fault Unit) (answer : Answer) (engine : Engine) :
    (Stage.closing outcome).operation answer engine =
      .done (outcome.map fun _ => answer) engine.endSweep := by
  cases outcome <;> rfl

/-- A stage that calls a listener waits for the reply. -/
theorem Stage.Calls.operation_eq {turn : Turn} {listener : Listener}
    (h : stage.Calls engine turn listener) (answer : Answer) :
    stage.operation answer engine =
      .call (turn.announcement.callback listener) (engine.noteTurn turn.announcement listener)
        (Suspension.telling turn answer).resume := by
  show Dialogue.andThen (Dialogue.andThen _ _) _ = _
  rw [h.program_eq]
  rfl

/-! ## Asking for a query -/

/-- The tree of a query is found: it is remembered, or it is read and remembered from now on. -/
inductive Finds (media : Text) (engine : Engine) : Option Query → Engine → Prop where
  | remembered {tree : Option Query} (hknown : engine.parsed.get? media = some tree) :
      Finds media engine tree engine
  | read {tree : Option Query} {records : List LogRecord}
      (hunread : engine.parsed.get? media = none)
      (hread : Query.parseLogged engine.room media = .ok (tree, records)) :
      Finds media engine tree (engine.remember media tree records)

namespace Finds

variable {media : Text} {tree : Option Query}

/-- Finding a query changes nothing but what is remembered and written. -/
theorem same (h : Finds media engine tree after) :
    after = { engine with parsed := after.parsed, journal := after.journal } := by
  cases h <;> rfl

/-- Finding a query changes no handle. -/
theorem handles (h : Finds media engine tree after) : after.handles = engine.handles := by
  rw [h.same]

/-- Finding a query changes nothing in the registry. -/
theorem registry (h : Finds media engine tree after) : after.registry = engine.registry := by
  rw [h.same]

/-- Finding a query changes no binding. -/
theorem bindings (h : Finds media engine tree after) : after.bindings = engine.bindings := by
  rw [h.same]

end Finds

/-- A query that is not remembered is not found either, if its reading does not end. Then nothing is
left behind. -/
theorem parseCached_cases (media : Text) (engine : Engine) :
    (∃ tree after, parseCached media engine = .done (.ok tree) after ∧
      Finds media engine tree after) ∨
      ∃ fault, parseCached media engine = .done (.error fault) engine ∧
        engine.parsed.get? media = none ∧ Query.parseLogged engine.room media = .error fault := by
  simp only [parseCached, get_bind]
  cases hknown : engine.parsed.get? media with
  | some tree => exact .inl ⟨tree, engine, rfl, .remembered hknown⟩
  | none =>
    cases hread : Query.parseLogged engine.room media with
    | error fault => exact .inr ⟨fault, rfl, rfl, rfl⟩
    | ok found => exact .inl ⟨found.1, _, rfl, .read hknown hread⟩

/-- The first answer of a handle is found at once, and the engine may write that it could not read
the size or the preferences. -/
theorem firstAnswer_cases (tree : Option Query) (engine : Engine) :
    ∃ outcome records, firstAnswer tree engine = .done outcome (engine.noteRecords records) ∧
      (∀ record ∈ records, record.level = .error) ∧
        ∀ isMatch, outcome = .ok isMatch → engine.IsFirstAnswer tree isMatch := by
  cases tree with
  | none =>
    refine ⟨.ok false, [], rfl, by simp, ?_⟩
    rintro isMatch ⟨⟩
    rfl
  | some query =>
    have hfirst : ∀ {outcome : Except Fault Bool}, (∀ width height,
        engine.providedSize = .ok (.ok width, .ok height) →
          query.evaluate (engine.surroundings (width, height) engine.preferences) = outcome) →
        ∀ isMatch, outcome = .ok isMatch → engine.IsFirstAnswer (some query) isMatch := by
      rintro outcome hevaluates isMatch rfl width height hsize
      exact hevaluates width height hsize
    match hsize : engine.providedSize with
    | .error fault =>
      have hread : readSize engine =
          .done (.ok none) (engine.note (.record (sizeFailure fault))) := by rw [readSize_eq, hsize]
      refine ⟨.ok false, [sizeFailure fault], bind_of_done hread, by simp [sizeFailure], ?_⟩
      exact hfirst (by simp [hsize])
    | .ok (.error fault, height) =>
      have hread : readSize engine = .done (.error fault) engine := by rw [readSize_eq, hsize]
      exact ⟨.error fault, [], bind_of_fault hread, by simp, by simp⟩
    | .ok (.ok width, .error fault) =>
      have hread : readSize engine = .done (.error fault) engine := by rw [readSize_eq, hsize]
      exact ⟨.error fault, [], bind_of_fault hread, by simp, by simp⟩
    | .ok (.ok width, .ok height) =>
      have hread : readSize engine = .done (.ok (some (width, height))) engine := by
        rw [readSize_eq, hsize]
      refine ⟨query.evaluate (engine.surroundings (width, height) engine.preferences),
        engine.hostRecords, ?_, ?_, hfirst ?_⟩
      · exact (bind_of_done hread).trans (bind_of_done (readHost_eq engine))
      · exact fun _ => level_hostRecords
      · intro otherWidth otherHeight hother
        rw [hsize] at hother
        cases hother
        rfl

/-- Why a query is refused: it has no text, or it was never read and its reading does not end. -/
inductive Refuses (engine : Engine) (query : Value) (fault : Fault) : Prop where
  | textless (htext : query.toText engine.room = .error fault)
  | endless (htext : query.toText engine.room = .ok query.display)
      (hnew : engine.registry.get? query.display = none)
      (hunread : engine.parsed.get? query.display = none)
      (hread : Query.parseLogged engine.room query.display = .error fault)

/-- Asking for a query that is not refused gives the handle that is registered, or makes one unless
its first answer cannot be found. -/
inductive Asks (query : Value) (engine : Engine) : Except Fault Nat → Engine → Prop where
  | refused {fault : Fault} (hrefused : engine.Refuses query fault) :
      Asks query engine (.error fault) engine
  | known {number : Nat} (hknown : engine.registry.get? query.display = some number) :
      Asks query engine (.ok number) engine
  | fails {fault : Fault} {tree : Option Query} {found : Engine} {records : List LogRecord}
      (hnew : engine.registry.get? query.display = none)
      (hfinds : Finds query.display engine tree found)
      (hlevel : ∀ record ∈ records, record.level = .error) :
      Asks query engine (.error fault) (found.noteRecords records)
  | makes {isMatch : Bool} {tree : Option Query} {found : Engine} {records : List LogRecord}
      (hnew : engine.registry.get? query.display = none)
      (hfinds : Finds query.display engine tree found)
      (hlevel : ∀ record ∈ records, record.level = .error)
      (hfirst : found.IsFirstAnswer tree isMatch) :
      Asks query engine (.ok engine.handles.length)
        ((found.noteRecords records).register { media := query.display, query := tree, isMatch })

/-- A query that is refused leaves nothing behind. -/
theorem matchMedia_of_refuses {query : Value} {fault : Fault} (h : engine.Refuses query fault) :
    matchMedia query engine = .done (.error fault) engine := by
  cases h with
  | textless htext => exact matchMedia_of_textless htext
  | endless htext hnew hunread hread =>
    rw [matchMedia_of_text htext]
    simp only [matchText, parseCached, bind_assoc, get_bind, hnew, hunread, hread]
    rfl

/-- Asking for a query ends at once. -/
theorem matchMedia_cases (query : Value) (engine : Engine) :
    ∃ outcome after, matchMedia query engine = .done outcome after ∧ Asks query engine outcome after := by
  cases htext : query.toText engine.room with
  | error fault =>
    exact ⟨.error fault, engine, matchMedia_of_textless htext, .refused (.textless htext)⟩
  | ok media =>
    obtain rfl := display_of_toText htext
    rw [matchMedia_of_text htext]
    simp only [matchText, get_bind]
    cases hregistered : engine.registry.get? query.display with
    | some number => exact ⟨.ok number, engine, rfl, .known hregistered⟩
    | none =>
      obtain ⟨tree, found, hfound, hfinds⟩ | ⟨fault, hfault, hunread, hread⟩ :=
        parseCached_cases query.display engine
      · obtain ⟨outcome, records, hdone, hlevel, hfirst⟩ := firstAnswer_cases tree found
        dsimp only
        rw [bind_of_done hfound]
        cases outcome with
        | error fault =>
          exact ⟨.error fault, _, bind_of_fault hdone, .fails hregistered hfinds hlevel⟩
        | ok isMatch =>
          refine ⟨_, _, (bind_of_done hdone).trans ?_,
            .makes hregistered hfinds hlevel (hfirst isMatch rfl)⟩
          rw [← hfinds.handles]
          rfl
      · exact ⟨.error fault, engine, bind_of_fault hfault,
          .refused (.endless htext hregistered hunread hread)⟩

/-- What is known of every end of asking for a query. -/
theorem asks_of_done {query : Value} {outcome : Except Fault Nat}
    (h : matchMedia query engine = .done outcome after) : Asks query engine outcome after := by
  obtain ⟨other, last, hdone, hasks⟩ := matchMedia_cases query engine
  cases h.symm.trans hdone
  exact hasks

/-- A request for a query ends like asking for it. -/
theorem perform_matchMedia {query : Value} {outcome : Except Fault Nat}
    (h : matchMedia query engine = .done outcome after) :
    perform (.matchMedia query) engine = .done (outcome.map .handle) after := by
  show Dialogue.andThen _ _ = _
  rw [h]
  cases outcome <;> rfl

/-- The engine refuses the request: its query cannot be read, or one of its overrides has no text. -/
inductive Declines (engine : Engine) : Request → Fault → Prop where
  | query {query : Value} {fault : Fault} (hrefuses : engine.Refuses query fault) :
      Declines engine (.matchMedia query) fault
  | overrides {values : Dict Value} {fault : Fault}
      (hfault : Overrides.fault? engine.room values = some fault) :
      Declines engine (.setOverrides values) fault

/-! ## Moves -/

/-- The request wants a sweep, and moves the engine to where the sweep is to begin. -/
inductive Prompts : Request → Engine → SweepReason → Answer → Engine → Prop where
  | overrides {values : Dict Value} {engine : Engine}
      (haccepted : Overrides.fault? engine.room values = none) :
      Prompts (.setOverrides values) engine .overrides .nothing (engine.replaceOverrides values)
  | frame {limit : Option Int} {engine : Engine} (hpending : engine.pacer.isPending = true)
      (hleft : (engine.takeDue limit).pacer.frames.scheduled = []) :
      Prompts (.flush limit) engine .resize (.count 1) (engine.takeDue limit).startFrame

/-- What happens next in a session. -/
abbrev Event := Happening Request Callback (Except Fault Unit) Answer

/-- What a move has led to: the host has control again, or a sweep goes on. The operations that
wait meanwhile are those of the list. -/
inductive Outset where
  | rests (event : Event) (waiting : List Suspension)
  | sweeps (stage : Stage) (answer : Answer) (waiting : List Suspension)

/-- A move of the host, up to where it has control again or a sweep goes on. -/
inductive HostStep : Move Request (Except Fault Unit) → List Suspension → Engine → Outset →
    Engine → Prop where
  | changes {request : Request} {change : Engine → Engine} {waiting : List Suspension}
      {engine : Engine} (hchange : request.change? = some change) :
      HostStep (.begin request) waiting engine (.rests (.ended (.ok .nothing)) waiting)
        (change engine)
  | asks {query : Value} {outcome : Except Fault Nat} {waiting : List Suspension}
      {engine after : Engine} (hasks : matchMedia query engine = .done outcome after) :
      HostStep (.begin (.matchMedia query)) waiting engine
        (.rests (.ended (outcome.map .handle)) waiting) after
  | binds {query : Value} {receiver : Text} {number : Nat} {isMatch : Bool}
      {waiting : List Suspension} {engine after : Engine}
      (hasks : matchMedia query (engine.addBinding receiver) = .done (.ok number) after) :
      HostStep (.begin (.bind query receiver)) waiting engine
        (.rests (.called (.deliver engine.bindings.length receiver isMatch))
          (.joining engine.bindings.length receiver number :: waiting))
        (after.note (.called (.deliver engine.bindings.length receiver isMatch)))
  | refuses {query : Value} {receiver : Text} {fault : Fault} {records : List LogRecord}
      {waiting : List Suspension} {engine after : Engine}
      (hasks : matchMedia query (engine.addBinding receiver) = .done (.error fault) after)
      (hlevel : ∀ record ∈ records, record.level = .error) :
      HostStep (.begin (.bind query receiver)) waiting engine
        (.rests (.called (.deliver engine.bindings.length receiver false))
          (.refused engine.bindings.length :: waiting))
        ((after.noteRecords records).note
          (.called (.deliver engine.bindings.length receiver false)))
  | declines {values : Dict Value} {fault : Fault} {waiting : List Suspension} {engine : Engine}
      (hfault : Overrides.fault? engine.room values = some fault) :
      HostStep (.begin (.setOverrides values)) waiting engine
        (.rests (.ended (.error fault)) waiting) (engine.refuseOverrides values)
  | idles {limit : Option Int} {waiting : List Suspension} {engine : Engine} :
      HostStep (.begin (.flush limit)) waiting engine
        (.rests (.ended (.ok (.count 0))) waiting) engine
  | joinsSweep {request : Request} {reason : SweepReason} {answer : Answer}
      {waiting : List Suspension} {engine entry : Engine}
      (hprompts : Prompts request engine reason answer entry)
      (hsweeping : engine.isSweeping = true) :
      HostStep (.begin request) waiting engine (.rests (.ended (.ok answer)) waiting)
        entry.requestFollowUp
  | beginsSweep {request : Request} {reason : SweepReason} {answer : Answer}
      {waiting : List Suspension} {engine entry : Engine}
      (hprompts : Prompts request engine reason answer entry)
      (hfree : engine.isSweeping = false) :
      HostStep (.begin request) waiting engine
        (.sweeps (firstStage reason engine.followUps) answer waiting) (entry.beginSweep reason)
  | hears {turn : Turn} {answer : Answer} {reply : Except Fault Unit} {waiting : List Suspension}
      {engine : Engine} :
      HostStep (.answer reply) (.telling turn answer :: waiting) engine
        (.sweeps turn.continued answer waiting) (turn.hear reply engine)
  | joins {binding number : Nat} {receiver : Text} {waiting : List Suspension} {engine : Engine} :
      HostStep (.answer (.ok ())) (.joining binding receiver number :: waiting) engine
        (.rests (.ended (.ok (.binding binding))) waiting)
        ((engine.listen number (some (.bound binding receiver))).joinBinding binding number)
  | drops {binding number : Nat} {receiver : Text} {fault : Fault} {waiting : List Suspension}
      {engine : Engine} :
      HostStep (.answer (.error fault)) (.joining binding receiver number :: waiting) engine
        (.rests (.ended (.error fault)) waiting) engine
  | leaves {binding : Nat} {reply : Except Fault Unit} {waiting : List Suspension}
      {engine : Engine} :
      HostStep (.answer reply) (.refused binding :: waiting) engine
        (.rests (.ended (reply.map fun _ => .binding binding)) waiting) engine

/-- Up to where the host has control again: a sweep has come to its next stop. -/
inductive Arrives : Outset → Engine → Event → List Suspension → Engine → Prop where
  | rests (event : Event) (waiting : List Suspension) (engine : Engine) :
      Arrives (.rests event waiting) engine event waiting engine
  | ends {stage : Stage} {answer : Answer} {waiting : List Suspension} {engine after : Engine}
      {outcome : Except Fault Unit} (hreaches : stage.Reaches engine (.closing outcome) after) :
      Arrives (.sweeps stage answer waiting) engine (.ended (outcome.map fun _ => answer)) waiting
        after.endSweep
  | calls {stage stop : Stage} {answer : Answer} {waiting : List Suspension}
      {engine after : Engine} {turn : Turn} {listener : Listener}
      (hreaches : stage.Reaches engine stop after) (hcalls : stop.Calls after turn listener) :
      Arrives (.sweeps stage answer waiting) engine
        (.called (turn.announcement.callback listener)) (.telling turn answer :: waiting)
        (after.noteTurn turn.announcement listener)

/-- What a move is in the history of a session. -/
def happening : Move Request (Except Fault Unit) → Event
  | .begin request => .begun request
  | .answer reply => .answered reply

/-- The session of an engine and its host. -/
abbrev EngineSession := Session Request Engine Callback (Except Fault Unit) Answer

/-- The session in which the host has control, some suspended operations wait, and some event was
the last. -/
def sessionAt (engine : Engine) (waiting : List Suspension) (history : List Event) : EngineSession :=
  ⟨engine, waiting.map Suspension.resume, history⟩

/-- A sweep that goes on comes to a stop. -/
theorem arrives_sweeps (stage : Stage) (answer : Answer) (waiting : List Suspension)
    (engine : Engine) :
    ∃ event now last, Arrives (.sweeps stage answer waiting) engine event now last ∧
      ∀ state history, (sessionAt state waiting history).advance (stage.operation answer engine) =
        sessionAt last now (event :: history) := by
  obtain ⟨stop, after, hreaches, hstops⟩ := stage.halts engine
  cases hstops with
  | ended outcome =>
    refine ⟨_, _, _, .ends hreaches, ?_⟩
    intro state history
    rw [hreaches.operation_eq, operation_closing]
    rfl
  | calls hcalls =>
    refine ⟨_, _, _, .calls hreaches hcalls, ?_⟩
    intro state history
    rw [hreaches.operation_eq, hcalls.operation_eq]
    rfl

/-- What a move leads to: from its outset to the next stop. -/
def Leads (move : Move Request (Except Fault Unit)) (waiting : List Suspension) (engine : Engine)
    (event : Event) (now : List Suspension) (last : Engine) : Prop :=
  ∃ outset middle, HostStep move waiting engine outset middle ∧
    Arrives outset middle event now last

/-- The move explains the dialogue: it is one that the move leads to. -/
def Explains (move : Move Request (Except Fault Unit)) (waiting : List Suspension) (engine : Engine)
    (rest : List Suspension) (dialogue : Dialogue Engine Callback (Except Fault Unit) Answer) :
    Prop :=
  ∃ event now last, Leads move waiting engine event now last ∧
    ∀ state history, (sessionAt state rest history).advance dialogue =
      sessionAt last now (event :: history)

variable {waiting rest : List Suspension}

/-- A move that ends at once. -/
theorem explains_done {move : Move Request (Except Fault Unit)} {outcome : Except Fault Answer}
    (h : HostStep move waiting engine (.rests (.ended outcome) rest) after) :
    Explains move waiting engine rest (.done outcome after) :=
  ⟨_, _, _, ⟨_, _, h, .rests _ _ _⟩, fun _ _ => rfl⟩

/-- A move that delivers a value. -/
theorem explains_call {move : Move Request (Except Fault Unit)} {callback : Callback}
    {suspension : Suspension}
    (h : HostStep move waiting engine (.rests (.called callback) (suspension :: rest)) after) :
    Explains move waiting engine rest (.call callback after suspension.resume) :=
  ⟨_, _, _, ⟨_, _, h, .rests _ _ _⟩, fun _ _ => rfl⟩

/-- A move with which a sweep goes on. -/
theorem explains_sweep {move : Move Request (Except Fault Unit)} {stage : Stage} {answer : Answer}
    (h : HostStep move waiting engine (.sweeps stage answer rest) after) :
    Explains move waiting engine rest (stage.operation answer after) := by
  obtain ⟨event, now, last, harrives, hadvance⟩ := arrives_sweeps stage answer rest after
  exact ⟨event, now, last, ⟨_, _, h, harrives⟩, hadvance⟩

/-- A request for a sweep joins the sweep under way or begins one. -/
theorem explains_prompts {request : Request} {reason : SweepReason} {answer : Answer}
    {entry : Engine} (hprompts : Prompts request engine reason answer entry) :
    Explains (.begin request) waiting engine waiting
      (((fun _ => answer) <$> sweep reason : Act Answer) entry) := by
  have hsame : entry.isSweeping = engine.isSweeping ∧ entry.followUps = engine.followUps := by
    cases hprompts <;> exact ⟨rfl, rfl⟩
  cases hsweeping : engine.isSweeping with
  | true =>
    have hjoins : sweep reason entry = .done (.ok ()) entry.requestFollowUp := by
      simp only [sweep, get_bind, hsame.1, hsweeping, if_true]
      rfl
    rw [map_eq_pure_bind]
    rw [bind_of_done hjoins]
    exact explains_done (.joinsSweep hprompts hsweeping)
  | false =>
    have hbegins : ((fun _ => answer) <$> sweep reason : Act Answer) entry =
        (firstStage reason engine.followUps).operation answer (entry.beginSweep reason) := by
      have hstart : sweep reason entry =
          (firstStage reason engine.followUps).program.ensuring (·.endSweep)
            (entry.beginSweep reason) := by
        simp only [sweep, get_bind, hsame.1, hsweeping, Bool.false_eq_true, if_false, modify_bind,
          hsame.2, allPasses_eq_program]
      exact bind_eq_bind _ hstart
    rw [hbegins]
    exact explains_sweep (.beginsSweep hprompts hsweeping)

/-- A flush for which the pending frame is due sweeps once. -/
theorem perform_flush_of_due {limit : Option Int} {frame : Frame Unit}
    (hpending : engine.pacer.isPending = true) (hdue : engine.pacer.frames.due limit = [frame]) :
    perform (.flush limit) engine =
      ((fun _ => .count 1) <$> sweep .resize : Act Answer) (engine.takeDue limit).startFrame := by
  have hflush : flush limit engine = ((fun _ => 1) <$> runFrame : Act Nat) (engine.takeDue limit) := by
    simp only [flush, get_bind, modify_bind, hdue, forAll, bind_assoc, pure_bind,
      List.length_singleton, map_eq_pure_bind]
  simp only [perform, map_eq_pure_bind]
  rw [bind_eq_bind _ hflush, map_eq_pure_bind, bind_assoc,
    bind_eq_bind _ (runFrame_takeDue limit hpending)]
  simp only [pure_bind]

/-- A flush runs the pending frame if that is due, and nothing else. -/
theorem explains_flush (hpaced : engine.pacer.IsExact) (limit : Option Int) :
    Explains (.begin (.flush limit)) waiting engine waiting (perform (.flush limit) engine) := by
  obtain ⟨hdue, hkept⟩ | ⟨hpending, ⟨frame, hdue⟩, hleft⟩ := due_cases hpaced limit
  · have hflush : flush limit engine = .done (.ok 0) engine := by
      simp only [flush, get_bind, modify_bind, hdue, hkept]
      rfl
    rw [perform, map_eq_pure_bind, bind_of_done hflush]
    exact explains_done .idles
  · rw [perform_flush_of_due hpending hdue]
    exact explains_prompts (.frame hpending hleft)

/-- A move that delivers a value and then does with the reply what the suspension says. -/
theorem explains_deliver {move : Move Request (Except Fault Unit)} {binding : Nat} {receiver : Text}
    {isMatch : Bool} {next : Unit → Act Answer} {suspension : Suspension}
    (h : HostStep move waiting engine
      (.rests (.called (.deliver binding receiver isMatch)) (suspension :: rest))
      (after.note (.called (.deliver binding receiver isMatch))))
    (hresumes : ∀ reply answered, suspension.resume reply answered =
      match reply with
      | .ok result => next result answered
      | .error fault => .done (.error fault) answered) :
    Explains move waiting engine rest ((deliver binding receiver isMatch >>= next) after) := by
  have hcall : (deliver binding receiver isMatch >>= next) after =
      .call (.deliver binding receiver isMatch)
        (after.note (.called (.deliver binding receiver isMatch))) suspension.resume := by
    show Dialogue.call _ _ _ = Dialogue.call _ _ _
    congr 1
    funext reply answered
    rw [hresumes]
    cases reply <;> rfl
  rw [hcall]
  exact explains_call h

/-- Binding a query delivers the answer of its handle, or no. -/
theorem explains_bind (query : Value) (receiver : Text) :
    Explains (.begin (.bind query receiver)) waiting engine waiting
      (perform (.bind query receiver) engine) := by
  obtain ⟨outcome, after, hdone, -⟩ := matchMedia_cases query (engine.addBinding receiver)
  have hattempt : (matchMedia query).attempt (engine.addBinding receiver) =
      .done (.ok outcome) after := by
    show Dialogue.andThen _ _ = _
    rw [hdone]
    rfl
  rw [perform, map_eq_pure_bind]
  simp only [bind, bind_assoc, get_bind, modify_bind]
  rw [bind_of_done hattempt]
  -- the fault is caught, and the receiver is given no
  cases outcome with
  | error fault =>
    obtain ⟨records, hrecorded, hlevel⟩ := exists_recordRefusal after query fault
    simp only [modify_bind, bind_assoc, hrecorded]
    refine explains_deliver (.refuses hdone hlevel) ?_
    intro reply answered
    cases reply <;> rfl
  | ok number =>
    simp only [get_bind, bind_assoc]
    refine explains_deliver (.binds hdone) ?_
    intro reply answered
    cases reply <;> rfl

/-- New overrides are refused, or a sweep joins or begins with them. -/
theorem explains_setOverrides (values : Dict Value) :
    Explains (.begin (.setOverrides values)) waiting engine waiting
      (perform (.setOverrides values) engine) := by
  have hstart : perform (.setOverrides values) engine =
      ((fun _ => .nothing) <$> setOverrides values : Act Answer) engine := rfl
  rw [hstart, map_eq_pure_bind]
  simp only [setOverrides, bind_assoc, get_bind]
  cases hfault : Overrides.fault? engine.room values with
  | some fault => exact explains_done (.declines hfault)
  | none =>
    simp only [bind_assoc, modify_bind]
    rw [← map_eq_pure_bind]
    exact explains_prompts (.overrides hfault)

/-- Every request leads to a stop. -/
theorem explains_perform (hpaced : engine.pacer.IsExact) (request : Request) :
    Explains (.begin request) waiting engine waiting (perform request engine) := by
  cases hchange : request.change? with
  | some change =>
    rw [perform_of_change hchange]
    exact explains_done (.changes hchange)
  | none =>
    cases request with
    | matchMedia query =>
      obtain ⟨outcome, after, hdone, -⟩ := matchMedia_cases query engine
      rw [perform_matchMedia hdone]
      exact explains_done (.asks hdone)
    | bind query receiver => exact explains_bind query receiver
    | flush limit => exact explains_flush hpaced limit
    | setOverrides values => exact explains_setOverrides values
    | _ => cases hchange

/-- Every move leads to a stop, but an answer that nothing waits for. -/
theorem step_sessionAt (hpaced : engine.pacer.IsExact) (waiting : List Suspension)
    (history : List Event) (move : Move Request (Except Fault Unit)) :
    (waiting = [] ∧ ∃ reply, move = .answer reply) ∨
      ∃ event now last, Leads move waiting engine event now last ∧
        (sessionAt engine waiting history).step perform move =
          sessionAt last now (event :: happening move :: history) := by
  have hexplains : ∀ {rest dialogue}, Explains move waiting engine rest dialogue →
      (sessionAt engine waiting history).step perform move =
        (sessionAt engine rest (happening move :: history)).advance dialogue →
      ∃ event now last, Leads move waiting engine event now last ∧
        (sessionAt engine waiting history).step perform move =
          sessionAt last now (event :: happening move :: history) := by
    rintro rest dialogue ⟨event, now, last, hleads, hadvance⟩ hstep
    exact ⟨event, now, last, hleads, hstep.trans (hadvance engine _)⟩
  cases move with
  | begin request => exact .inr (hexplains (explains_perform hpaced request) rfl)
  | answer reply =>
    cases waiting with
    | nil => exact .inl ⟨rfl, reply, rfl⟩
    | cons suspension rest =>
      right
      have hresume : Explains (.answer reply) (suspension :: rest) engine rest
          (suspension.resume reply engine) := by
        cases suspension with
        | telling turn answer => exact explains_sweep .hears
        | joining binding receiver number =>
          cases reply with
          | ok result => exact explains_done .joins
          | error fault => exact explains_done .drops
        | refused binding => exact explains_done .leaves
      exact hexplains hresume rfl

end Breakpoint.Engine
