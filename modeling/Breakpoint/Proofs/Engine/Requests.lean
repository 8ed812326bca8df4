import Breakpoint.Engine.Operations
import Breakpoint.Proofs.Engine.SweepOutline
import Breakpoint.Proofs.Query.Descent

/-!
# Rules for the requests to an engine

For each kind of request a rule says what has to be shown of the single changes it makes, so
that the whole of it keeps a contract. `RequestRules` gathers them: an engine whose changes all
obey it honours the contract with every request.
-/

namespace Breakpoint.Engine

open Operation

variable {contract : Contract Engine Callback}

/-- A query was read: its tree was known or is remembered now, and records may be written. -/
def Recalls (engine : Engine) (media : Text) (tree : Option Query) (after : Engine) : Prop :=
  ∃ records, engine.parsed.get? media = some tree ∧ after = engine.noteRecords records ∨
    Query.ReadsAs media tree ∧ after = engine.remember media tree records

/-- Further records do not matter to what is remembered. -/
theorem Recalls.noteRecords {engine after : Engine} {media : Text} {tree : Option Query}
    (h : engine.Recalls media tree after) (more : List LogRecord) :
    engine.Recalls media tree (after.noteRecords more) := by
  obtain ⟨records, ⟨hknown, rfl⟩ | ⟨htree, rfl⟩⟩ := h
  · refine ⟨records ++ more, .inl ⟨hknown, ?_⟩⟩
    simp [Engine.noteRecords]
  · refine ⟨records ++ more, .inr ⟨htree, ?_⟩⟩
    simp [remember, Engine.noteRecords]

/-- Reading a query makes no binding. -/
theorem Recalls.bindings {engine after : Engine} {media : Text} {tree : Option Query}
    (h : engine.Recalls media tree after) : after.bindings = engine.bindings := by
  obtain ⟨records, ⟨-, rfl⟩ | ⟨-, rfl⟩⟩ := h <;> rfl

/-- What a new handle answers: no for a query that cannot be read, and what the query evaluates
to where the size can be read. -/
def IsFirstAnswer (engine : Engine) (tree : Option Query) (isMatch : Bool) : Prop :=
  match tree with
  | none => isMatch = false
  | some query => ∀ width height, engine.providedSize = .ok (.ok width, .ok height) →
    query.evaluate (engine.surroundings (width, height) engine.preferences) = .ok isMatch

/-- Reading a query ends at once with its tree, or with a fault that leaves nothing behind. -/
theorem keeps_parseCached {post : Except Fault (Option Query) → Engine → Prop} {media : Text}
    {engine : Engine} (hrefused : ∀ fault, post (.error fault) engine)
    (h : ∀ tree after, engine.Recalls media tree after → post (.ok tree) after) :
    (parseCached media engine).Keeps contract post := by
  simp only [parseCached, keeps_bind, keeps_get, continues_ok]
  cases hknown : engine.parsed.get? media with
  | some tree => exact h tree engine ⟨[], .inl ⟨hknown, rfl⟩⟩
  | none =>
    simp only [keeps_bind, keeps_lift]
    cases hread : Query.parseLogged engine.room media with
    | error fault => exact hrefused fault
    | ok found =>
      obtain ⟨tree, records⟩ := found
      exact h tree _ ⟨records, .inr ⟨⟨_, _, hread⟩, rfl⟩⟩

/-- The first answer is found at once, or a fault. Nothing happens but that records are
written. -/
theorem keeps_firstAnswer {post : Except Fault Bool → Engine → Prop} {tree : Option Query}
    {engine : Engine}
    (h : ∀ outcome records, (∀ isMatch, outcome = .ok isMatch → engine.IsFirstAnswer tree isMatch) →
      post outcome (engine.noteRecords records)) :
    (firstAnswer tree engine).Keeps contract post := by
  cases tree with
  | none =>
    apply h (.ok false) []
    intro isMatch hsame
    cases hsame
    rfl
  | some query =>
    have hunread : (∀ width height, engine.providedSize ≠ .ok (.ok width, .ok height)) →
        ∀ isMatch, engine.IsFirstAnswer (some query) isMatch := by
      intro hnone isMatch width height hsize
      exact absurd hsize (hnone width height)
    simp only [firstAnswer, readSize, keeps_bind, keeps_get, continues_ok]
    cases hsize : engine.providedSize with
    | error fault =>
      refine h (.ok false) [⟨.error, .engine, "Failed to read the preview viewport size", some fault⟩] ?_
      intro isMatch _
      exact hunread (by simp [hsize]) isMatch
    | ok size =>
      obtain ⟨width, height⟩ := size
      simp only [keeps_bind, keeps_lift]
      cases width with
      | error fault => exact h (.error fault) [] (by simp)
      | ok width =>
        simp only [continues_ok, keeps_bind, keeps_lift]
        cases height with
        | error fault => exact h (.error fault) [] (by simp)
        | ok height =>
          have hanswer : ∀ isMatch, query.evaluate (engine.surroundings (width, height)
              engine.preferences) = .ok isMatch → engine.IsFirstAnswer (some query) isMatch := by
            intro isMatch hmatch otherWidth otherHeight hother
            rw [hsize] at hother
            cases hother
            exact hmatch
          simp only [continues_ok, keeps_pure, keeps_bind]
          obtain ⟨after, hread, hafter⟩ := readHost_cases engine
          rw [hread]
          simp only [Dialogue.Keeps, continues_ok, answer, keeps_bind, keeps_get, keeps_lift]
          obtain rfl | ⟨record, -, rfl⟩ := hafter
          · exact h _ [] hanswer
          · exact h _ [record] hanswer

/-- A value that has a text has the text that it shows. -/
theorem display_of_toText {room : Nat} {value : Value} {text : Text}
    (h : value.toText room = .ok text) : value.display = text := by
  rw [Value.toText] at h
  split at h
  · cases h
  · cases h
    rfl

/-- A query without a text is not asked for. -/
theorem matchMedia_of_textless {engine : Engine} {query : Value} {fault : Fault}
    (h : query.toText engine.room = .error fault) :
    matchMedia query engine = .done (.error fault) engine := by
  simp only [matchMedia, get_bind, h]
  rfl

/-- A query with a text is asked for by its text. -/
theorem matchMedia_of_text {engine : Engine} {query : Value}
    (h : query.toText engine.room = .ok query.display) :
    matchMedia query engine = matchText query.display engine := by
  simp only [matchMedia, get_bind, h]
  rfl

/-- Asking for a query gives the handle that is known, or makes one unless the query has no text,
is nested too deep or its first answer cannot be found. -/
theorem keeps_matchMedia {post : Except Fault Nat → Engine → Prop} {query : Value}
    {engine : Engine}
    (hrefused : ∀ fault, post (.error fault) engine)
    (hknown : ∀ number, engine.registry.get? query.display = some number →
      post (.ok number) engine)
    (hfault : ∀ tree after fault, engine.Recalls query.display tree after →
      post (.error fault) after)
    (hmade : ∀ tree after isMatch, engine.registry.get? query.display = none →
      engine.Recalls query.display tree after → after.IsFirstAnswer tree isMatch →
        post (.ok after.handles.length)
          (after.register { media := query.display, query := tree, isMatch })) :
    (matchMedia query engine).Keeps contract post := by
  simp only [matchMedia, keeps_bind, keeps_get, continues_ok, keeps_lift]
  cases htext : query.toText engine.room with
  | error fault => exact hrefused fault
  | ok media =>
  obtain rfl := display_of_toText htext
  simp only [matchText, keeps_bind, keeps_get, continues_ok]
  cases hregistered : engine.registry.get? query.display with
  | some number => exact hknown number hregistered
  | none =>
    simp only [keeps_bind]
    apply keeps_parseCached hrefused
    intro tree read hrecalls
    simp only [continues_ok, keeps_bind]
    apply keeps_firstAnswer
    intro outcome records hfirst
    cases outcome with
    | error fault => exact hfault tree _ fault (hrecalls.noteRecords records)
    | ok isMatch => exact hmade tree _ isMatch hregistered (hrecalls.noteRecords records) (hfirst isMatch rfl)

/-- Listening for the one type of events is listening. -/
theorem listenTo_changeType (engine : Engine) (number : Nat) (listener : Option Listener) :
    engine.listenTo number changeType listener = engine.listen number listener :=
  if_pos rfl

/-- Delivering a value leads to what holds after the call, also when the receiver fails. -/
theorem keeps_deliver {assertion : Engine → Prop} {binding : Nat} {receiver : Text}
    {isMatch : Bool} {engine : Engine}
    (h : Calls contract (.deliver binding receiver isMatch) assertion
      (engine.note (.called (.deliver binding receiver isMatch)))) :
    (deliver binding receiver isMatch engine).Keeps contract fun _ after => assertion after := by
  obtain ⟨hvalid, hcall, hafter⟩ := h
  simp only [deliver, callOrFail, keeps_bind, keeps_modify, continues_ok, keeps_call]
  refine ⟨hvalid, hcall, ?_⟩
  intro reply after hafterValid hstep
  exact hafter after hafterValid hstep

/-- A query that cannot be asked for is recorded once, or not at all. -/
theorem exists_recordRefusal (engine : Engine) (query : Value) (fault : Fault) :
    ∃ records, engine.recordRefusal query fault = engine.noteRecords records ∧
      ∀ record ∈ records, record.level = .error := by
  rw [recordRefusal]
  split
  · exact ⟨[], rfl, by simp⟩
  · exact ⟨[_], rfl, by simp⟩

/-- Binding a query: `asked` is what holds when the handle was asked for, `listening` when its
answer was delivered and the binding is about to listen, and `dropped` when a query that cannot
be asked for was answered with no. -/
theorem keeps_bindQuery {post : Except Fault Nat → Engine → Prop} {query : Value}
    {receiver : Text} {engine : Engine} {asked : Except Fault Nat → Engine → Prop}
    (listening : Nat → Engine → Prop) (dropped : Engine → Prop)
    (hasks : (matchMedia query (engine.addBinding receiver)).Keeps contract asked)
    (hrefused : ∀ fault records after, asked (.error fault) after →
      Calls contract (.deliver engine.bindings.length receiver false) dropped
        ((after.noteRecords records).note
          (.called (.deliver engine.bindings.length receiver false))))
    (hdelivers : ∀ number after, asked (.ok number) after → ∀ isMatch,
      isMatch = (after.handle? number).any (·.isMatch) →
        Calls contract (.deliver engine.bindings.length receiver isMatch) (listening number)
          (after.note (.called (.deliver engine.bindings.length receiver isMatch))))
    (hdropped : ∀ outcome after, dropped after → post outcome after)
    (hfails : ∀ fault number after, listening number after → post (.error fault) after)
    (hjoins : ∀ number after, listening number after →
      post (.ok engine.bindings.length)
        ((after.listen number (some (.bound engine.bindings.length receiver))).joinBinding
          engine.bindings.length number)) :
    (bind query receiver engine).Keeps contract post := by
  simp only [bind, keeps_bind, keeps_get, continues_ok, keeps_modify, keeps_attempt]
  apply hasks.imp
  intro outcome after hasked
  cases outcome with
  | error fault =>
    obtain ⟨records, hrecorded, -⟩ := exists_recordRefusal after query fault
    simp only [continues_ok, keeps_bind, keeps_modify, hrecorded]
    apply (keeps_deliver (hrefused fault _ after hasked)).imp
    intro outcome ended hended
    cases outcome with
    | error fault => exact hdropped (.error fault) ended hended
    | ok result => exact hdropped (.ok engine.bindings.length) ended hended
  | ok number =>
    simp only [continues_ok, keeps_bind, keeps_get]
    apply (keeps_deliver (hdelivers number after hasked _ rfl)).imp
    intro outcome ended hended
    cases outcome with
    | error fault => exact hfails fault number ended hended
    | ok result =>
      simp only [continues_ok, listenTo_changeType]
      exact hjoins number ended hended

/-- A flush honours a contract if the start of a frame does and the tasks may leave the
schedule. -/
theorem honours_flush {limit : Option Int}
    (hdue : contract.Admits (·.takeDue limit))
    (hframe : ∀ engine, contract.Valid engine → engine.pacer.isPending = true →
      (sweep .resize engine.startFrame).Keeps contract fun _ after =>
        contract.Valid after ∧ contract.Step engine after) :
    Honours contract (flush limit) := by
  have hrun : Honours contract runFrame := by
    intro engine hvalid
    simp only [runFrame, keeps_bind, keeps_get, continues_ok]
    cases hpending : engine.pacer.isPending with
    | false => exact ⟨hvalid, contract.refl engine⟩
    | true =>
      simp only [if_true, keeps_bind, keeps_modify, continues_ok]
      exact hframe engine hvalid hpending
  exact honours_get.bind fun _ => hdue.honours.bind fun _ =>
    (honours_forAll fun _ => hrun).bind fun _ => honours_pure _

/-- A request that calls no one makes its change at once. -/
theorem perform_of_change {request : Request} {change : Engine → Engine}
    (h : request.change? = some change) :
    perform request = (fun _ => .nothing) <$> Operation.modify change := by
  cases request <;> cases h <;> rfl

/-- What has to be shown of an engine whose allowed requests are to honour a contract. -/
structure RequestRules (contract : Contract Engine Callback) (allowed : Request → Prop) :
    Prop where
  asks : ∀ query, Honours contract (matchMedia query)
  binds : ∀ query receiver, Honours contract (bind query receiver)
  takesDue : ∀ limit, contract.Admits (·.takeDue limit)
  startsFrame : ∀ engine, contract.Valid engine → engine.pacer.isPending = true →
    (sweep .resize engine.startFrame).Keeps contract fun _ after =>
      contract.Valid after ∧ contract.Step engine after
  refuses : ∀ values, contract.Admits (·.refuseOverrides values)
  replaces : ∀ values engine, contract.Valid engine →
    (sweep .overrides (engine.replaceOverrides values)).Keeps contract fun _ after =>
      contract.Valid after ∧ contract.Step engine after
  changes : ∀ {request change}, allowed request → request.change? = some change →
    contract.Admits change

/-- An engine that obeys the rules honours the contract with every allowed request. -/
theorem RequestRules.perform {allowed : Request → Prop} (rules : RequestRules contract allowed)
    (request : Request) (hallowed : allowed request) : Honours contract (perform request) := by
  cases hchange : request.change? with
  | some change =>
    rw [perform_of_change hchange]
    exact (rules.changes hallowed hchange).honours.map _
  | none =>
    cases request with
    | matchMedia query => exact (rules.asks query).map _
    | bind query receiver => exact (rules.binds query receiver).map _
    | flush limit => exact (honours_flush (rules.takesDue limit) rules.startsFrame).map _
    | setOverrides values =>
      refine Honours.map ?_ _
      intro engine hvalid
      simp only [setOverrides, keeps_bind, keeps_get, continues_ok]
      cases Overrides.fault? engine.room values with
      | none => exact rules.replaces values engine hvalid
      | some fault => exact rules.refuses values engine hvalid
    | _ => cases hchange

/-- The session with a new engine after a list of moves of its host. -/
def sessionAfter (options : EngineOptions) (moves : List (Move Request (Except Fault Unit))) :
    Session Request Engine Callback (Except Fault Unit) Answer :=
  Session.run Engine.perform { state := create options } moves

/-- More moves go on from the session after the first. -/
theorem sessionAfter_append (options : EngineOptions)
    (before after : List (Move Request (Except Fault Unit))) :
    sessionAfter options (before ++ after) = (sessionAfter options before).run perform after :=
  List.foldl_append

/-- The last move is one more step. -/
theorem sessionAfter_concat (options : EngineOptions)
    (moves : List (Move Request (Except Fault Unit))) (move : Move Request (Except Fault Unit)) :
    sessionAfter options (moves ++ [move]) = (sessionAfter options moves).step perform move :=
  sessionAfter_append options moves [move]

/-- An engine that is given a size and nothing else. -/
def plainOptions : EngineOptions := { width := .ofFloat 600, height := .ofFloat 800 }

/-- The session with an engine that obeys the rules keeps the contract. -/
theorem RequestRules.obeys {allowed : Request → Prop} (rules : RequestRules contract allowed)
    {options : EngineOptions} (hnew : contract.Valid (create options))
    {moves : List (Move Request (Except Fault Unit))}
    (hmoves : ∀ move ∈ moves, move.Begins allowed) :
    (sessionAfter options moves).Obeys contract (create options) :=
  (Session.obeys_new hnew).run rules.perform hmoves

end Breakpoint.Engine
