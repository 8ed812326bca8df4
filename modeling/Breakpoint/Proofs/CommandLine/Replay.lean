import Breakpoint.Proofs.CommandLine.Listening
import Breakpoint.Proofs.Overrides

/-!
# The lines of a command

Between two sizes the engine of a command is determined by what it was asked: one handle for each
distinct text, in the order of first occurrence, with the answer at the present size. Asking a text
and going to a size keep it so, and print what follows from the answers alone. Main statement: a
command that loads prints the lines that its queries, each read and evaluated afresh at each size,
give without an engine.
-/

namespace Breakpoint.CommandLine

open Operation

variable {engine after : Engine} {queries : List Text}

/-! ## The engine of a command between two sizes -/

/-- The engine of a command at a size, when it was asked some texts: each text has one handle, in
the order of first occurrence, with the answer at this size, and no frame is to come. -/
structure Shows (around : Extent × Extent → Surroundings) (room : Nat) (size : Extent × Extent)
    (queries : List Text) (engine : Engine) : Prop where
  handles : engine.handles = queries.eraseDups.map (handleAt (around size))
  registry : engine.registry.entries = queries.eraseDups.zipIdx
  parsed : ∀ media tree, engine.parsed.get? media = some tree → tree = Query.parse? media
  surroundings : ∀ size, engine.surroundings size engine.preferences = around size
  size : engine.size = size
  room : engine.room = room
  told : IsTold engine
  observing : engine.isObserving = true
  observers : engine.viewport.observers = [()]
  paced : engine.pacer.IsExact
  quiet : engine.pacer.isPending = false
  idle : engine.isSweeping = false

variable {around : Extent × Extent → Surroundings} {room : Nat} {last first size : Extent × Extent}

namespace Shows

/-- The surroundings are those of the size. -/
theorem present (h : Shows around room size queries engine) : present engine = around size := by
  rw [CommandLine.present, h.size, h.surroundings]

/-- The handles are numbered in the order of the distinct queries. -/
theorem registered (h : Shows around room size queries engine) :
    engine.registered = List.range queries.eraseDups.length := by
  rw [Engine.registered, h.registry, List.zipIdx_map_snd, List.range_eq_range']

/-- A new size asks for one frame. -/
theorem resize (h : Shows around room last queries engine) (width height : Extent) :
    engine.resize width height =
      { engine with
        viewport := engine.viewport.resize width height, pacer := engine.pacer.request } := by
  have hobservers : (engine.viewport.resize width height).observers = [()] := h.observers
  simp only [Engine.resize, hobservers, List.foldl_cons, List.foldl_nil, Engine.sizeChanged,
    h.observing, if_true]

/-- The frame of a new size tells of every text that answers otherwise there. -/
theorem flush (h : Shows around room last queries engine) (width height : Extent) :
    ∃ after, listen (Engine.flush none) (engine.resize width height) =
        (.ok 1, queries.eraseDups.filterMap (change? (around last) (around (width, height))), after) ∧
      Shows around room (width, height) queries after := by
  rw [h.resize width height]
  -- Only the size and the frame are new: the sweep starts from the answers at the last size.
  let resized : Engine := { engine with
    viewport := engine.viewport.resize width height, pacer := engine.pacer.request }
  let started := (resized.takeDue none).startFrame
  have htold : IsTold started := ⟨h.told.provider, h.told.host⟩
  have hpresent : CommandLine.present started = around (width, height) := h.surroundings (width, height)
  obtain ⟨journal, hsweep⟩ := listen_sweep htold h.handles h.registered h.idle .resize
  rw [hpresent] at hsweep
  refine ⟨_, listen_flush h.paced.request engine.pacer.isPending_request hsweep, ?_⟩
  exact {
    handles := by rw [← hpresent]; rfl
    registry := h.registry
    parsed := h.parsed
    surroundings := h.surroundings
    size := rfl
    room := h.room
    told := ⟨h.told.provider, h.told.host⟩
    observing := h.observing
    observers := h.observers
    paced := by
      show ((engine.pacer.request.frames.scheduled.drop _).map _) = []
      rw [Frames.dueCount, List.drop_length, List.map_nil]
    quiet := rfl
    idle := h.idle }

end Shows

/-- Going to a further size prints the lines of its changes. -/
theorem visit_eq (h : Shows around room last queries engine) (size : Extent × Extent) :
    ∃ after, visit size engine =
        { lines := sizeLine size :: linesOfChanges (around last) (around size) queries
          engine := after } ∧
      Shows around room size queries after := by
  obtain ⟨after, hflush, hshows⟩ := h.flush size.1 size.2
  refine ⟨after, ?_, hshows⟩
  have hset : listen (Engine.setSize size.1 size.2) engine =
      (.ok (), [], engine.resize size.1 size.2) := listen_of_done rfl
  simp only [visit, hset, hflush, linesOfChanges]
  cases queries.eraseDups.filterMap (change? (around last) (around size)) <;> rfl

/-- A part without a fault is followed by the next one. -/
theorem next_eq {further : Engine → Part} {more : List Text}
    (h : further engine = { lines := more, engine := after }) (lines : List Text) :
    Part.next { lines, engine } further = { lines := lines ++ more, engine := after } := by
  simp only [Part.next, h]

/-- Going through further sizes prints the lines of each. -/
theorem replay_eq (further : List (Extent × Extent)) (h : Shows around room last queries engine) :
    ∃ after, replay (further.map some) engine =
      { lines := furtherLines around queries last further, engine := after } := by
  induction further generalizing last engine with
  | nil => exact ⟨engine, rfl⟩
  | cons size further ih =>
    obtain ⟨middle, hvisit, hshows⟩ := visit_eq h size
    obtain ⟨after, hreplay⟩ := ih hshows
    refine ⟨after, ?_⟩
    rw [List.map_cons, replay, hvisit, next_eq hreplay]
    rfl

/-! ## Asking -/

/-- A new text is the last of the distinct ones. -/
theorem eraseDups_append_of_not_mem {query : Text} (h : query ∉ queries) :
    (queries ++ [query]).eraseDups = queries.eraseDups ++ [query] := by
  have hkept : [query].removeAll queries = [query] := by simp [List.removeAll, h]
  rw [List.eraseDups_append, hkept]
  rfl

/-- A query that is repeated at the end adds nothing to the distinct ones. -/
theorem eraseDups_append_of_mem {query : Text} (h : query ∈ queries) :
    (queries ++ [query]).eraseDups = queries.eraseDups := by
  have hgone : [query].removeAll queries = [] := by simp [List.removeAll, h]
  rw [List.eraseDups_append, hgone]
  exact List.append_nil _

/-- A change that leaves every member as it is. -/
theorem modify_eq_self {handles : List Handle} {change : Handle → Handle}
    (h : ∀ handle ∈ handles, change handle = handle) (number : Nat) :
    handles.modify number change = handles := by
  apply List.ext_getElem?
  intro other
  rw [List.getElem?_modify]
  cases hother : handles[other]? with
  | none => rfl
  | some handle =>
    rw [Option.map_eq_map, Option.map_some]
    split
    · rw [h handle (List.mem_of_getElem? hother)]
    · rfl

/-- The first answer of a text is that of the present. -/
theorem IsTold.firstAnswer (h : IsTold engine) (media : Text) :
    Engine.firstAnswer (Query.parse? media) engine =
      .done (.ok ((answerOf (present engine) media).getD false)) engine := by
  cases hparse : Query.parse? media with
  | none =>
    rw [answerOf_eq_none hparse]
    rfl
  | some query =>
    rw [Engine.firstAnswer, bind_of_done h.readSize]
    simp only
    rw [bind_of_done h.readHost, Engine.answer, get_bind, lift_apply]
    exact congrArg (Dialogue.done · engine) (evaluate_eq_answerOf hparse (present engine))

namespace Shows

/-- Reading a text gives its tree, and it does not matter whether the tree was remembered. -/
theorem parseCached (h : Shows around room size queries engine) {media : Text}
    (hends : Ends room media) :
    ∃ after, Engine.parseCached media engine = .done (.ok (Query.parse? media)) after ∧
      Shows around room size queries after := by
  cases hknown : engine.parsed.get? media with
  | some tree =>
    refine ⟨engine, ?_, h⟩
    simp only [Engine.parseCached, get_bind, hknown, h.parsed media tree hknown]
    rfl
  | none =>
    obtain ⟨⟨tree, records⟩, hread⟩ := hends
    obtain rfl := (Query.parseLogged_eq_ok hread).1
    refine ⟨engine.remember media (Query.parse? media) records, ?_, ?_⟩
    · simp only [Engine.parseCached, get_bind, hknown, h.room, hread]
      rfl
    · refine { h with parsed := ?_, told := ⟨h.told.provider, h.told.host⟩ }
      intro other tree hother
      have hinsert : (engine.parsed.insert media (Query.parse? media)).get? other = some tree := hother
      rw [Dict.get?_insert] at hinsert
      split at hinsert
      · next hsame => rw [hsame, Option.some.inj hinsert]
      · exact h.parsed other tree hinsert

/-- The number of a text is where it stands among the distinct ones. -/
theorem get?_registry (h : Shows around room size queries engine) {media : Text} {number : Nat}
    (hnumber : engine.registry.get? media = some number) :
    engine.handle? number = some (handleAt (around size) media) := by
  have hmem := Dict.mem_of_get? hnumber
  rw [h.registry, List.mk_mem_zipIdx_iff_getElem?] at hmem
  rw [Engine.handle?, h.handles, List.getElem?_map, hmem, Option.map_some]

/-- Only the texts that were queried are registered. -/
theorem get?_registry_eq_none (h : Shows around room size queries engine) {media : Text} :
    engine.registry.get? media = none ↔ media ∉ queries := by
  rw [Dict.get?_eq_none_iff, Dict.names, h.registry, List.zipIdx_map_fst, List.mem_eraseDups]

/-- Asking for a new text makes a handle for it. -/
theorem matchMedia (h : Shows around room size queries engine) {query : Text}
    (hends : Ends room query) (hnew : query ∉ queries) :
    ∃ middle, Engine.matchMedia (.text query) engine = .done (.ok middle.handles.length)
        (middle.register { media := query, query := Query.parse? query,
                           isMatch := (answerOf (around size) query).getD false }) ∧
      Shows around room size queries middle := by
  obtain ⟨middle, hparse, hmiddle⟩ := h.parseCached hends
  refine ⟨middle, ?_, hmiddle⟩
  have hanswer := hmiddle.told.firstAnswer query
  rw [hmiddle.present] at hanswer
  rw [Engine.matchMedia_of_text (Value.toText_text _ query)]
  simp only [Engine.matchText, get_bind, Value.display_text, h.get?_registry_eq_none.2 hnew]
  rw [bind_of_done hparse, bind_of_done hanswer]
  rfl

/-- Asking for a text once more finds its handle, and listening to it once more changes nothing. -/
theorem again (h : Shows around room size queries engine) {query : Text} (hknown : query ∈ queries) :
    ∃ number, Engine.matchMedia (.text query) engine = .done (.ok number) engine ∧
      engine.handle? number = some (handleAt (around size) query) ∧
      Shows around room size (queries ++ [query]) (engine.listen number (some changesListener)) := by
  obtain ⟨number, hnumber⟩ := Option.ne_none_iff_exists'.1 fun hnone =>
    h.get?_registry_eq_none.1 hnone hknown
  have hfixed : ∀ handle ∈ engine.handles, handle.addListener changesListener = handle := by
    rw [h.handles, List.forall_mem_map]
    intro media _
    exact if_pos List.mem_cons_self
  have hsame : engine.listen number (some changesListener) = engine := by
    rw [Engine.listen, Engine.changeHandle, modify_eq_self hfixed]
  refine ⟨number, ?_, h.get?_registry hnumber, ?_⟩
  · rw [Engine.matchMedia_of_text (Value.toText_text _ query)]
    simp only [Engine.matchText, get_bind, Value.display_text, hnumber]
    rfl
  · rw [hsame]
    exact { h with
      handles := by rw [eraseDups_append_of_mem hknown, h.handles]
      registry := by rw [eraseDups_append_of_mem hknown, h.registry] }

/-- A new text is asked with its handle, to which the command listens from then on. -/
theorem made (h : Shows around room size queries engine) {query : Text} (hnew : query ∉ queries)
    {handle : Handle} (hhandle : handle.addListener changesListener = handleAt (around size) query)
    (hmedia : handle.media = query) :
    Shows around room size (queries ++ [query])
      ((engine.register handle).listen engine.handles.length (some changesListener)) := by
  have hlength : engine.handles.length = queries.eraseDups.length := by rw [h.handles, List.length_map]
  refine { h with handles := ?_, registry := ?_, told := ⟨h.told.provider, h.told.host⟩ }
  · show (engine.handles ++ [handle]).modify _ _ = _
    rw [modify_append_cons, hhandle, eraseDups_append_of_not_mem hnew, List.map_append, h.handles]
    rfl
  · show (engine.registry.insert handle.media engine.handles.length).entries = _
    rw [hmedia, Dict.entries_insert (h.get?_registry_eq_none.2 hnew), eraseDups_append_of_not_mem hnew,
      List.zipIdx_append, h.registry, hlength, Nat.zero_add]
    rfl

end Shows

/-- The words about the handle of a text are those about its answer. -/
theorem queryLine_handleText {surroundings : Surroundings} {media : Text} {handle : Handle}
    (hquery : handle.query = Query.parse? media)
    (hmatch : handle.isMatch = (answerOf surroundings media).getD false) :
    queryLine media (handleText handle) = firstLine surroundings media := by
  rw [handleText, firstLine, hquery, hmatch]
  cases hparse : Query.parse? media with
  | none =>
    rw [answerOf_eq_none hparse]
    rfl
  | some query =>
    obtain ⟨isMatch, hanswer⟩ := exists_answerOf hparse surroundings
    rw [hanswer]
    cases isMatch <;> rfl

/-- Asking a text prints its line. -/
theorem ask_eq (h : Shows around room size queries engine) {query : Text} (hends : Ends room query) :
    ∃ after, ask query engine = { lines := [firstLine (around size) query], engine := after } ∧
      Shows around room size (queries ++ [query]) after := by
  have hask : ∀ {middle : Engine} {number : Nat} {handle : Handle},
      Engine.matchMedia (.text query) engine = .done (.ok number) middle →
      middle.handle? number = some handle → handle.query = Query.parse? query →
      handle.isMatch = (answerOf (around size) query).getD false →
      ask query engine = { lines := [firstLine (around size) query]
                           engine := middle.listen number (some changesListener) } := by
    intro middle number handle hmatch hhandle hquery hanswer
    have hlisten : listen (Engine.addListener number (some changesListener)) middle =
        (.ok (), [], middle.listen number (some changesListener)) := listen_of_done rfl
    simp only [ask, listen_of_done hmatch, hhandle, hlisten, Option.map_some, Option.getD_some,
      queryLine_handleText hquery hanswer]
  by_cases hknown : query ∈ queries
  · obtain ⟨number, hmatch, hhandle, hshows⟩ := h.again hknown
    exact ⟨_, hask hmatch hhandle rfl rfl, hshows⟩
  · obtain ⟨middle, hmatch, hmiddle⟩ := h.matchMedia hends hknown
    exact ⟨_, hask hmatch ((Engine.handle?_register _ _ _).trans (if_pos rfl)) rfl rfl,
      hmiddle.made hknown rfl rfl⟩

/-- Asking further texts prints their lines. -/
theorem askAll_eq {more : List Text} (hends : ∀ query ∈ more, Ends room query)
    (h : Shows around room size queries engine) :
    ∃ after, askAll more engine =
        { lines := more.map (firstLine (around size)), engine := after } ∧
      Shows around room size (queries ++ more) after := by
  induction more generalizing queries engine with
  | nil => exact ⟨engine, rfl, by rwa [List.append_nil]⟩
  | cons query more ih =>
    rw [List.forall_mem_cons] at hends
    obtain ⟨middle, hask, hmiddle⟩ := ask_eq h hends.1
    obtain ⟨after, hrest, hafter⟩ := ih hends.2 hmiddle
    rw [← List.append_cons] at hafter
    refine ⟨after, ?_, hafter⟩
    rw [askAll, hask, next_eq hrest]
    rfl

/-! ## The whole command -/

/-- What the queries of a command are evaluated against at a size. -/
def surroundingsOf (settings : Settings) (overrides : Dict Text) (host : Preferences)
    (size : Extent × Extent) : Surroundings :=
  ⟨size.1, size.2, Overrides.toValues (settings.overrides.insertAll overrides.entries), host⟩

/-- A new engine was asked nothing. -/
theorem shows_engineFor {settings : Settings} (h : settings.overrides.names.Nodup)
    (overrides : Dict Text) (host : Preferences) (room : Nat) (size : Extent × Extent) :
    Shows (surroundingsOf settings overrides host) room size []
      (engineFor settings overrides host room size) where
  handles := rfl
  registry := rfl
  parsed media tree hparsed := by cases hparsed
  surroundings size := by
    have hoverrides : (engineFor settings overrides host room size).overrides =
        settings.overrides.insertAll overrides.entries := by
      show Overrides.normalise ((Overrides.toValues _).insertAll (Overrides.toValues _).entries) = _
      rw [← Overrides.toValues_insertAll,
        Overrides.normalise_toValues (Dict.nodup_names_insertAll h overrides.entries)]
    rw [Engine.surroundings, surroundingsOf, ← hoverrides]
    rfl
  size := rfl
  room := rfl
  told := ⟨rfl, host, rfl⟩
  observing := rfl
  observers := rfl
  paced := rfl
  quiet := rfl
  idle := rfl

/-- A transcript is told without an engine, and no fault ends it. -/
theorem transcript_eq {settings : Settings} (h : settings.overrides.names.Nodup)
    (overrides : Dict Text) (host : Preferences) {room : Nat} (first : Extent × Extent)
    (further : List (Extent × Extent)) {queries : List Text}
    (hends : ∀ query ∈ queries, Ends room query) :
    let told := transcript settings overrides host room first (further.map some) queries
    told.lines = expectedLines (surroundingsOf settings overrides host) first further queries ∧
      told.fault = none := by
  intro told
  obtain ⟨asked, hask, hasked⟩ := askAll_eq hends (shows_engineFor h overrides host room first)
  obtain ⟨last, hreplay⟩ := replay_eq further hasked
  have hclose : close last = { lines := [], engine := (listen Engine.destroy last).2.2 } := rfl
  simp only [told, transcript, next_eq hask, next_eq hreplay, next_eq hclose, List.append_nil]
  exact ⟨rfl, trivial⟩

/-- The files that a command sees when its log is open, if it asks for one. -/
inductive Opens (machine : Machine) (arguments : Arguments) (retention : Int) : FileTree → Prop
  | unlogged {files : FileTree} (hdirectory : logDirectoryFor arguments machine = .ok (none, files)) :
    Opens machine arguments retention files
  | logged {directory : Path} {earlier files : FileTree} {log : Path × RotatingLog}
    (hdirectory : logDirectoryFor arguments machine = .ok (some directory, earlier))
    (hopen : openLog earlier directory retention = (.ok log, files)) :
    Opens machine arguments retention files

/-- The settings of a command, its log and its overrides can be used. -/
structure Loads (machine : Machine) (arguments : Arguments) (settings : Settings)
    (overrides : Dict Text) : Prop where
  loaded : settingsFor arguments machine = .ok settings
  merged : ∃ files file records, Opens machine arguments settings.logRetention files ∧
    fileOverrides arguments { machine with files } = .ok (file, records) ∧
      mergeOverrides file arguments.overrides = .ok overrides

/-- A command with sizes and loaded overrides prints its transcript. -/
theorem lines_answerQueries {arguments : Arguments} {machine : Machine} {file overrides : Dict Text}
    {records : List LogRecord} {first : Extent × Extent} {further : List (Extent × Extent)}
    (hfile : fileOverrides arguments machine = .ok (file, records))
    (hmerge : mergeOverrides file arguments.overrides = .ok overrides)
    (hsizes : arguments.sizes = (first :: further).map some) (settings : Settings) :
    (answerQueries arguments machine settings).lines =
      (transcript settings overrides (.detect machine.environment) machine.room first
        (further.map some) arguments.queries).lines := by
  simp only [answerQueries, hfile, hmerge, hsizes, List.map_cons]

/-- The overrides of the settings have distinct names. -/
theorem nodup_settingsFor {arguments : Arguments} {machine : Machine} {settings : Settings}
    (h : settingsFor arguments machine = .ok settings) : settings.overrides.names.Nodup := by
  rw [settingsFor] at h
  split at h
  · exact Settings.nodup_load h
  · cases h
    exact List.nodup_nil

/-- A command that loads prints what its queries alone tell, each read and evaluated afresh at each
size, which never fails if there is room for the readings: the heading of the first size with a line
for every query, then the heading of each further size with a line for every text that answers
otherwise than at the size before. -/
theorem lines_carryOut {machine : Machine} {arguments : Arguments} {settings : Settings}
    {overrides : Dict Text} {first : Extent × Extent} {further : List (Extent × Extent)}
    (hloads : Loads machine arguments settings overrides)
    (hsizes : arguments.sizes = (first :: further).map some)
    (hends : ∀ media ∈ arguments.queries, Ends machine.room media) (stamp : Text) :
    let around := surroundingsOf settings overrides (.detect machine.environment)
    (∀ size, ∀ media ∈ arguments.queries, ∃ tree records,
      Query.parseLogged machine.room media = .ok (tree, records) ∧
        tree.mapM (·.evaluate (around size)) = .ok (answerOf (around size) media)) ∧
    (carryOut machine stamp arguments).lines =
      expectedLines around first further arguments.queries := by
  intro around
  refine ⟨fun size media hmedia => (hends media hmedia).evaluates (around size), ?_⟩
  obtain ⟨hsettings, files, file, records, hopens, hfile, hmerge⟩ := hloads
  have hanswer := lines_answerQueries hfile hmerge hsizes settings
  rw [(transcript_eq (nodup_settingsFor hsettings) overrides _ first further hends).1] at hanswer
  cases hopens with
  | unlogged hdirectory =>
    simp only [carryOut, hsettings, hdirectory]
    exact hanswer
  | logged hdirectory hopen =>
    -- The lines are the same whether or not the log can be saved in the end.
    simp only [carryOut, hsettings, hdirectory, Bind.bind, Except.bind, Pure.pure, Except.pure, hopen]
    split <;> exact hanswer

/-- A command with one override, and with a query twice and one that cannot be read. -/
def repeatingCommand : Arguments :=
  { queries := ["(min-width: 600px)", "speech", "(hover: none)", "(min-width: 600px)"]
    sizes := [some (.ofFloat 400, .ofFloat 300), some (.ofFloat 800, .ofFloat 600)]
    overrides := [some ("hover", "none")] }

/-- The lines of a command that repeats a query, in a dark scheme. -/
theorem lines_repeatingCommand :
    let machine : Machine := { environment := ⟨[("PREVIEW_MEDIA_HOST_COLOR_SCHEME", "dark")]⟩ }
    let overrides : Dict Text := ⟨[("hover", "none")]⟩
    Loads machine repeatingCommand {} overrides ∧
      repeatingCommand.sizes =
        [(.ofFloat 400, .ofFloat 300), (.ofFloat 800, .ofFloat 600)].map some ∧
      (∀ media ∈ repeatingCommand.queries, Ends machine.room media) ∧
      (carryOut machine "" repeatingCommand).lines =
        expectedLines (surroundingsOf {} overrides (.detect machine.environment))
          (.ofFloat 400, .ofFloat 300) [(.ofFloat 800, .ofFloat 600)] repeatingCommand.queries := by
  intro machine overrides
  have hloads : Loads machine repeatingCommand {} overrides :=
    ⟨rfl, machine.files, {}, [], .unlogged rfl, rfl, rfl⟩
  have hends : ∀ media ∈ repeatingCommand.queries, Ends machine.room media := fun media hmedia =>
    .of_length_lt ((by decide : ∀ media ∈ repeatingCommand.queries, media.length < usualRoom) media
      hmedia)
  exact ⟨hloads, rfl, hends, (lines_carryOut hloads rfl hends "").2⟩

end Breakpoint.CommandLine
