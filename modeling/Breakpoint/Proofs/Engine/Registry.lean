import Mathlib.Data.List.Nodup
import Breakpoint.Proofs.Engine.Bounds

/-!
# What is registered and remembered

Of the queries that an engine was asked for since it was last destroyed, it remembers the trees of
all that it had room to read, and keeps the handles of those whose first answer could be found.
Asked for the same query again it gives the same handle, and it reads a query, and warns of it,
only once.
-/

namespace Breakpoint.Engine

open Journal

/-- The query that a request asks for, and the engine that is asked. -/
def Request.asked? (engine : Engine) : Request → Option (Value × Engine)
  | .matchMedia query => some (query, engine)
  | .bind query receiver => some (query, engine.addBinding receiver)
  | _ => none

/-- The move asks an engine for the query of a text, with the outcome. -/
def Inquires (engine : Engine) (move : Move Request (Except Fault Unit)) (media : Text)
    (outcome : Except Fault Nat) : Prop :=
  ∃ request query asked last, move = .begin request ∧
    request.asked? engine = some (query, asked) ∧ query.display = media ∧
      matchMedia query asked = .done outcome last

/-- The engine can make out the text of a query, and has room to read it. -/
def CanRead (engine : Engine) (query : Value) (media : Text) : Prop :=
  query.toText engine.room = .ok media ∧
    ∃ reading, Query.parseLogged engine.room media = .ok reading

/-- The move asks an engine for the query of a text, which it can read. -/
def Consults (engine : Engine) (move : Move Request (Except Fault Unit)) (media : Text) : Prop :=
  ∃ request query asked, move = .begin request ∧
    request.asked? engine = some (query, asked) ∧ asked.CanRead query media

/-- One of the moves asked the engine as it was then, and only moves of a kind came after it. -/
def Asked (kept : Move Request (Except Fault Unit) → Prop) (options : EngineOptions)
    (moves : List (Move Request (Except Fault Unit)))
    (asks : Engine → Move Request (Except Fault Unit) → Prop) : Prop :=
  ∃ before move after, moves = before ++ move :: after ∧ (∀ later ∈ after, kept later) ∧
    asks (sessionAfter options before).state move

/-- The query was asked for, at any time, with the outcome. -/
abbrev AskedEver (options : EngineOptions) (moves : List (Move Request (Except Fault Unit)))
    (media : Text) (outcome : Except Fault Nat) : Prop :=
  Asked (fun _ => True) options moves (Inquires · · media outcome)

/-- The query was asked for since the engine was last destroyed, with the outcome. -/
abbrev AskedSince (options : EngineOptions) (moves : List (Move Request (Except Fault Unit)))
    (media : Text) (outcome : Except Fault Nat) : Prop :=
  Asked (· ≠ .begin .destroy) options moves (Inquires · · media outcome)

/-- The query was asked for since the engine was last destroyed, and could be read. -/
abbrev ConsultedSince (options : EngineOptions) (moves : List (Move Request (Except Fault Unit)))
    (media : Text) : Prop :=
  Asked (· ≠ .begin .destroy) options moves (Consults · · media)

variable {engine after : Engine} {options : EngineOptions} {media : Text}
  {moves : List (Move Request (Except Fault Unit))} {move : Move Request (Except Fault Unit)}
  {asks : Engine → Move Request (Except Fault Unit) → Prop} {outcome : Except Fault Nat}
  {number : Nat}

/-- Before the first move nothing was asked for. -/
theorem not_asked_nil {kept : Move Request (Except Fault Unit) → Prop} :
    ¬ Asked kept options [] asks := by
  rintro ⟨before, move, after, hmoves, -⟩
  exact absurd hmoves.symm (by simp)

/-- A query was asked for by the last move, or before it. -/
theorem asked_concat {kept : Move Request (Except Fault Unit) → Prop} :
    Asked kept options (moves ++ [move]) asks ↔
      asks (sessionAfter options moves).state move ∨ kept move ∧ Asked kept options moves asks := by
  constructor
  · rintro ⟨before, asking, after, hmoves, hkept, hasks⟩
    rcases List.eq_nil_or_concat' after with rfl | ⟨earlier, last, rfl⟩
    · obtain ⟨rfl, hlast⟩ := List.append_inj' hmoves rfl
      cases hlast
      exact .inl hasks
    · rw [← List.cons_append, ← List.append_assoc] at hmoves
      obtain ⟨rfl, hlast⟩ := List.append_inj' hmoves rfl
      cases hlast
      rw [List.forall_mem_append] at hkept
      exact .inr ⟨hkept.2 move List.mem_cons_self, before, asking, earlier, rfl, hkept.1, hasks⟩
  · rintro (hasks | ⟨hlast, before, asking, after, rfl, hkept, hasks⟩)
    · exact ⟨moves, move, [], rfl, by simp, hasks⟩
    · refine ⟨before, asking, after ++ [move], by simp, ?_, hasks⟩
      rw [List.forall_mem_append]
      exact ⟨hkept, by simpa using hlast⟩

/-! ## What a move does to the registry -/

/-- The later engine has registered and remembers the same, has made the same handles, and has
warned of the same queries. -/
structure SameFiles (before after : Engine) : Prop where
  registry : after.registry = before.registry
  parsed : after.parsed = before.parsed
  made : ∀ number, (after.handle? number).isSome = (before.handle? number).isSome
  warnings : warnings .parser after.journal = warnings .parser before.journal

/-- A plain entry is no warning. -/
theorem warnings_plain {entry : Entry} {journal : Journal} (h : entry.IsPlain) (source : Source) :
    warnings source (entry :: journal) = warnings source journal := by
  apply List.filterMap_cons_none
  cases entry with
  | record written => exact if_neg fun hwarning => h hwarning.1
  | _ => rfl

namespace SameFiles

variable {before middle : Engine}

/-- What two changes in turn leave to the files, both together do. -/
theorem trans (hfirst : SameFiles before middle) (hsecond : SameFiles middle after) :
    SameFiles before after where
  registry := hsecond.registry.trans hfirst.registry
  parsed := hsecond.parsed.trans hfirst.parsed
  made number := (hsecond.made number).trans (hfirst.made number)
  warnings := hsecond.warnings.trans hfirst.warnings

/-- A plain change leaves the files alone. -/
theorem of_plain (h : Plain before after) : SameFiles before after where
  registry := by rw [h.same]
  parsed := by rw [h.same]
  made number := by simpa using congrArg Option.isSome (h.handles number)
  warnings := Adds.keeps (Journal.warnings .parser) (warnings_plain · .parser) h.journal

/-- What changes neither the files nor the handles. -/
theorem of_eq (hregistry : after.registry = before.registry) (hparsed : after.parsed = before.parsed)
    (hhandles : after.handles = before.handles)
    (hwarnings : Journal.warnings .parser after.journal = Journal.warnings .parser before.journal) :
    SameFiles before after :=
  ⟨hregistry, hparsed, fun number => by rw [handle?, handle?, hhandles], hwarnings⟩

/-- A step of a sweep registers nothing and reads no query. -/
theorem of_step {stage next : Stage} (h : stage.Step engine next after) :
    SameFiles engine after := by
  cases h with
  | @unreadable round engine fault hsize =>
    have hpass : SameFiles engine engine.beginPass := of_eq rfl rfl rfl rfl
    exact hpass.trans (of_plain (.note _ (by simp [Entry.IsPlain, sizeFailure])))
  | misread hsize hfault => exact of_eq rfl rfl rfl rfl
  | @reads round engine width height hsize =>
    have hpass : SameFiles engine engine.beginPass := of_eq rfl rfl rfl rfl
    exact hpass.trans (of_plain (.noteRecords _ fun _ => level_hostRecords))
  | @changes tour number rest engine handle query isMatch hhandle hquery hattached hanswer hchange =>
    refine ⟨rfl, rfl, ?_, rfl⟩
    intro other
    show ((engine.changeHandle number _).handle? other).isSome = _
    rw [handle?_changeHandle]
    split
    · rw [Option.isSome_map]
    · rfl
  | closes => exact of_eq rfl rfl rfl rfl
  | givesUp hrequest hallowed => exact of_eq rfl rfl rfl rfl
  | _ => exact of_eq rfl rfl rfl rfl

/-- The host has control again. -/
theorem of_arrives {outset : Outset} {event : Event} {now : List Suspension}
    (h : Arrives outset engine event now after) : SameFiles engine after := by
  have hreached : ∀ {stage stop : Stage} {last : Engine}, stage.Reaches engine stop last →
      SameFiles engine last := by
    intro stage stop last hreaches
    apply hreaches.induct _ (of_eq rfl rfl rfl rfl)
    exact fun hstep hsame => hsame.trans (of_step hstep)
  cases h with
  | rests => exact of_eq rfl rfl rfl rfl
  | ends hreaches => exact (hreached hreaches).trans (of_eq rfl rfl rfl rfl)
  | calls hreaches hcalls => exact (hreached hreaches).trans (of_eq rfl rfl rfl rfl)

end SameFiles

/-- A move destroys the engine, asks for a query, or leaves what is registered and remembered as it
is. -/
inductive Refiles : Move Request (Except Fault Unit) → Engine → Engine → Prop where
  | drops {engine after : Engine} (hsame : SameFiles engine.detachAll after) :
      Refiles (.begin .destroy) engine after
  | asks {request : Request} {query : Value} {outcome : Except Fault Nat}
      {engine asked last after : Engine} (hasked : request.asked? engine = some (query, asked))
      (hdone : matchMedia query asked = .done outcome last) (hsame : SameFiles last after) :
      Refiles (.begin request) engine after
  | leaves {move : Move Request (Except Fault Unit)} {engine after : Engine}
      (hkept : move ≠ .begin .destroy)
      (hsilent : ∀ request, move = .begin request → request.asked? engine = none)
      (hsame : SameFiles engine after) :
      Refiles move engine after

/-- What a move makes of the files stays until the next stop of the sweep. -/
theorem Refiles.arrives {middle : Engine} {outset : Outset} {event : Event} {now : List Suspension}
    (h : Refiles move engine middle) (harrives : Arrives outset middle event now after) :
    Refiles move engine after := by
  have hlast := SameFiles.of_arrives harrives
  cases h with
  | drops hsame => exact .drops (hsame.trans hlast)
  | asks hasked hdone hsame => exact .asks hasked hdone (hsame.trans hlast)
  | leaves hkept hsilent hsame => exact .leaves hkept hsilent (hsame.trans hlast)

/-- A request for a sweep asks for no query. -/
theorem Refiles.of_prompts {request : Request} {reason : SweepReason} {answer : Answer}
    {entry : Engine} (hprompts : Prompts request engine reason answer entry)
    (hsame : SameFiles entry after) : Refiles (.begin request) engine after := by
  refine .leaves ?_ ?_ ((SameFiles.of_plain (.of_prompts hprompts)).trans hsame)
  · rintro ⟨⟩
    cases hprompts
  · rintro other ⟨⟩
    cases hprompts <;> rfl

/-- After the handles are detached, destruction leaves the files alone. -/
theorem sameFiles_tearDown (engine : Engine) : SameFiles engine.detachAll engine.tearDown := by
  have hleft : SameFiles engine engine.stopObserving.cancelFrame :=
    .of_plain ((Plain.stopObserving engine).trans (.cancelFrame _))
  have hmade : ∀ (engine : Engine) number,
      (engine.detachAll.handle? number).isSome = (engine.handle? number).isSome := by
    intro engine number
    rw [handle?_detachAll, Option.isSome_map]
  have hdropped : SameFiles engine.detachAll engine.stopObserving.cancelFrame.detachAll :=
    ⟨rfl, rfl, fun number => by rw [hmade, hmade, hleft.made], hleft.warnings⟩
  exact hdropped.trans (.of_plain (.markDestroyed _))

/-- A move, up to where the host has control again or a sweep goes on. -/
theorem HostStep.refiles {waiting : List Suspension} {outset : Outset}
    (h : HostStep move waiting engine outset after) : Refiles move engine after := by
  cases h with
  | @changes request change waiting engine hchange =>
    by_cases hdestroys : request = .destroy
    · subst hdestroys
      cases hchange
      exact .drops (sameFiles_tearDown engine)
    · refine .leaves ?_ ?_ (.of_plain (.of_change hchange hdestroys engine))
      · rintro ⟨⟩
        exact hdestroys rfl
      · rintro other ⟨⟩
        cases request <;> first | rfl | cases hchange
  | asks hasks => exact .asks rfl hasks (.of_eq rfl rfl rfl rfl)
  | binds hasks => exact .asks rfl hasks (.of_plain (.note _ trivial))
  | refuses hasks hlevel =>
    exact .asks rfl hasks (.of_plain ((Plain.noteRecords _ hlevel).trans (.note _ trivial)))
  | declines hfault =>
    exact .leaves (by simp) (by simp [Request.asked?]) (.of_plain (.refuseOverrides engine _))
  | joinsSweep hprompts hsweeping => exact .of_prompts hprompts (.of_eq rfl rfl rfl rfl)
  | beginsSweep hprompts hfree => exact .of_prompts hprompts (.of_eq rfl rfl rfl rfl)
  | hears => exact .leaves (by simp) (by simp) (.of_plain (.hear _ _ engine))
  | joins =>
    exact .leaves (by simp) (by simp) (.of_plain ((Plain.listen engine _ _).trans (.joinBinding _ _ _)))
  | idles => exact .leaves (by simp) (by simp [Request.asked?]) (.of_eq rfl rfl rfl rfl)
  | drops => exact .leaves (by simp) (by simp) (.of_eq rfl rfl rfl rfl)
  | leaves => exact .leaves (by simp) (by simp) (.of_eq rfl rfl rfl rfl)

/-- What the last of some moves does. -/
theorem refiles_sessionAfter (options : EngineOptions)
    (moves : List (Move Request (Except Fault Unit))) (move : Move Request (Except Fault Unit)) :
    Refiles move (sessionAfter options moves).state (sessionAfter options (moves ++ [move])).state := by
  obtain ⟨waiting, hstands⟩ := stands_sessionAfter options moves
  rw [sessionAfter_concat]
  rcases hstands.step move with ⟨-, ⟨reply, rfl⟩, hsame⟩ | ⟨event, now, hleads, -, -⟩
  · rw [hsame]
    exact .leaves (by simp) (by simp) (.of_eq rfl rfl rfl rfl)
  · obtain ⟨outset, middle, hhost, harrives⟩ := hleads
    exact hhost.refiles.arrives harrives

/-! ## What is registered -/

/-- Asking for a query finds its handle, or fails, or registers a handle that was not made before. -/
theorem entries_asks {query : Value} {asked last : Engine}
    (hdone : matchMedia query asked = .done outcome last) :
    (∃ number, outcome = .ok number ∧ (query.display, number) ∈ asked.registry.entries ∧
        last.registry = asked.registry) ∨
      (∃ fault, outcome = .error fault ∧ last.registry = asked.registry) ∨
      outcome = .ok asked.handles.length ∧
        last.registry.entries = asked.registry.entries ++ [(query.display, asked.handles.length)] := by
  cases asks_of_done hdone with
  | @refused fault hrefused => exact .inr (.inl ⟨fault, rfl, rfl⟩)
  | @known number hknown => exact .inl ⟨number, rfl, Dict.mem_of_get? hknown, rfl⟩
  | @fails fault tree found records hnew hfinds hlevel =>
    exact .inr (.inl ⟨fault, rfl, hfinds.registry⟩)
  | @makes isMatch tree found records hnew hfinds hlevel hfirst =>
    refine .inr (.inr ⟨rfl, ?_⟩)
    show (found.registry.insert query.display found.handles.length).entries = _
    rw [hfinds.registry, hfinds.handles, Dict.entries_insert hnew]

/-- A request changes the engine plainly before it asks for its query. -/
theorem plain_asked {request : Request} {query : Value} {asked : Engine}
    (h : request.asked? engine = some (query, asked)) : Plain engine asked := by
  cases request with
  | matchMedia query =>
    cases h
    exact .refl engine
  | bind query receiver =>
    cases h
    exact .addBinding engine receiver
  | _ => cases h

/-- A request asks for one query and has one outcome. -/
theorem inquires_begin {request : Request} {query : Value} {asked last : Engine}
    {found : Except Fault Nat} (hasked : request.asked? engine = some (query, asked))
    (hdone : matchMedia query asked = .done found last) :
    Inquires engine (.begin request) media outcome ↔ query.display = media ∧ found = outcome := by
  constructor
  · rintro ⟨other, query, asked, last, ⟨⟩, hother, hmedia, hfound⟩
    cases hasked.symm.trans hother
    cases hdone.symm.trans hfound
    exact ⟨hmedia, rfl⟩
  · rintro ⟨hmedia, rfl⟩
    exact ⟨request, query, asked, last, rfl, hasked, hmedia, hdone⟩

/-- A move that asks for no query has no outcome. -/
theorem not_inquires (hsilent : ∀ request, move = .begin request → request.asked? engine = none) :
    ¬ Inquires engine move media outcome := by
  rintro ⟨request, query, asked, last, hmove, hasked, -⟩
  cases (hsilent request hmove).symm.trans hasked

/-- A request can read one query at most. -/
theorem consults_begin {request : Request} {query : Value} {asked : Engine}
    (hasked : request.asked? engine = some (query, asked)) :
    Consults engine (.begin request) media ↔ asked.CanRead query media := by
  constructor
  · rintro ⟨other, query, asked, ⟨⟩, hother, hread⟩
    cases hasked.symm.trans hother
    exact hread
  · exact fun hread => ⟨request, query, asked, rfl, hasked, hread⟩

/-- A move that asks for no query needs to read none. -/
theorem not_consults (hsilent : ∀ request, move = .begin request → request.asked? engine = none) :
    ¬ Consults engine move media := by
  rintro ⟨request, query, asked, hmove, hasked, -⟩
  cases (hsilent request hmove).symm.trans hasked

/-- A request for a query does not destroy the engine. -/
theorem ne_destroy_of_asked {request : Request} {query : Value} {asked : Engine}
    (hasked : request.asked? engine = some (query, asked)) :
    (.begin request : Move Request (Except Fault Unit)) ≠ .begin .destroy := by
  rintro ⟨⟩
  cases hasked

/-- What is registered after a move: what was asked for just now, and what was registered before, if
the engine was not destroyed. -/
theorem Refiles.mem_registry_iff (h : Refiles move engine after) :
    (media, number) ∈ after.registry.entries ↔
      Inquires engine move media (.ok number) ∨
        move ≠ .begin .destroy ∧ (media, number) ∈ engine.registry.entries := by
  cases h with
  | @drops engine after hsame =>
    have hnone : ¬ Inquires engine (.begin .destroy) media (.ok number) := by
      apply not_inquires
      rintro request ⟨⟩
      rfl
    have hempty : (media, number) ∉ engine.detachAll.registry.entries := List.not_mem_nil
    rw [hsame.registry]
    simp [hnone, hempty]
  | @asks request query found engine asked last after hasked hdone hsame =>
    have hplain := plain_asked hasked
    have hregistry : asked.registry = engine.registry := by rw [hplain.same]
    rw [hsame.registry, inquires_begin hasked hdone, and_iff_right (ne_destroy_of_asked hasked)]
    rcases entries_asks hdone with ⟨known, rfl, hknown, hkept⟩ | ⟨fault, rfl, hkept⟩ | ⟨rfl, hmade⟩
    · rw [hkept, hregistry]
      rw [hregistry] at hknown
      constructor
      · exact .inr
      · rintro (⟨rfl, hnumber⟩ | hold)
        · cases hnumber
          exact hknown
        · exact hold
    · rw [hkept, hregistry]
      simp
    · rw [hmade, hregistry, List.mem_append, List.mem_singleton, Prod.mk.injEq, or_comm,
        Except.ok.injEq, @eq_comm _ media, @eq_comm _ number]
  | leaves hkept hsilent hsame =>
    rw [hsame.registry]
    simp [not_inquires hsilent, hkept]

/-- Exactly the handles that the engine gave since it was last destroyed are registered, each under
the text that it was asked for. -/
theorem mem_registry_iff (options : EngineOptions)
    (moves : List (Move Request (Except Fault Unit))) (media : Text) (number : Nat) :
    (media, number) ∈ (sessionAfter options moves).state.registry.entries ↔
      AskedSince options moves media (.ok number) := by
  induction moves using List.reverseRecOn with
  | nil => exact iff_of_false List.not_mem_nil not_asked_nil
  | append_singleton moves move ih =>
    rw [(refiles_sessionAfter options moves move).mem_registry_iff, AskedSince, asked_concat, ih]

/-! ## What is made -/

/-- Asking for a query gives a handle that is made then, and makes no other. -/
theorem made_asks {query : Value} {asked last : Engine} (hfiled : asked.IsFiled)
    (hdone : matchMedia query asked = .done outcome last) (number : Nat) :
    (last.handle? number).isSome = true ↔
      outcome = .ok number ∨ (asked.handle? number).isSome = true := by
  cases asks_of_done hdone with
  | refused hrefused => simp
  | @known known hknown =>
    obtain ⟨handle, hhandle, -⟩ := hfiled.registry _ _ (Dict.mem_of_get? hknown)
    constructor
    · exact .inr
    · rintro (hsame | hmade)
      · cases hsame
        rw [hhandle, Option.isSome_some]
      · exact hmade
  | @fails fault tree found records hnew hfinds hlevel =>
    show (found.handles[number]?).isSome = true ↔ _
    rw [hfinds.handles]
    simp [handle?]
  | @makes isMatch tree found records hnew hfinds hlevel hfirst =>
    have hnoted : (found.noteRecords records).handles = asked.handles := hfinds.handles
    rw [handle?_register, handle?, hnoted, Except.ok.injEq, @eq_comm _ asked.handles.length]
    split
    · next hlast => simp [hlast]
    · next hother => simp [hother, handle?]

/-- The handles that were made are those of before and the one that the move was given. -/
theorem Refiles.made_iff (h : Refiles move engine after) (hfiled : engine.IsFiled) (number : Nat) :
    (after.handle? number).isSome = true ↔
      (∃ media, Inquires engine move media (.ok number)) ∨
        (engine.handle? number).isSome = true := by
  cases h with
  | @drops engine after hsame =>
    have hnone : ∀ media, ¬ Inquires engine (.begin .destroy) media (.ok number) := by
      intro media
      apply not_inquires
      rintro request ⟨⟩
      rfl
    rw [hsame.made, handle?_detachAll, Option.isSome_map]
    simp [hnone]
  | @asks request query found engine asked last after hasked hdone hsame =>
    have hplain := plain_asked hasked
    have hmade := (SameFiles.of_plain hplain).made number
    rw [hsame.made, made_asks (hfiled.plain hplain) hdone, hmade]
    simp [inquires_begin hasked hdone]
  | leaves hkept hsilent hsame =>
    rw [hsame.made]
    simp [not_inquires hsilent]

/-- The handles of every session are filed. -/
theorem filed_sessionAfter (options : EngineOptions)
    (moves : List (Move Request (Except Fault Unit))) : (sessionAfter options moves).state.IsFiled := by
  obtain ⟨waiting, hstands⟩ := stands_sessionAfter options moves
  exact hstands.filed

/-- The handles that the engine made are those that it gave when it was asked. -/
theorem made_iff (options : EngineOptions) (moves : List (Move Request (Except Fault Unit)))
    (number : Nat) :
    ((sessionAfter options moves).state.handle? number).isSome = true ↔
      ∃ media, AskedEver options moves media (.ok number) := by
  induction moves using List.reverseRecOn with
  | nil =>
    refine iff_of_false (by simp [sessionAfter, Session.run, handle?, create]) ?_
    rintro ⟨media, hasked⟩
    exact not_asked_nil hasked
  | append_singleton moves move ih =>
    rw [(refiles_sessionAfter options moves move).made_iff (filed_sessionAfter options moves), ih,
      ← exists_or]
    simp only [AskedEver, asked_concat, true_and]

/-! ## What is remembered -/

/-- From the earlier engine to the later the queries of the texts were read, each new to the
engine, and those that cannot be read were warned of. -/
structure Reads (texts : List Text) (before after : Engine) : Prop where
  parsed : after.parsed.names = before.parsed.names ++ texts
  warnings : Journal.warnings .parser after.journal =
    texts.reverse.filterMap Query.rejection? ++ Journal.warnings .parser before.journal

/-- Where the files are the same, nothing was read. -/
theorem SameFiles.reads (h : SameFiles engine after) : Reads [] engine after :=
  ⟨by rw [h.parsed, List.append_nil], h.warnings⟩

/-- What is read in two steps is read in both together. -/
theorem Reads.trans {middle : Engine} {texts others : List Text} (hfirst : Reads texts engine middle)
    (hsecond : Reads others middle after) : Reads (texts ++ others) engine after where
  parsed := by rw [hsecond.parsed, hfirst.parsed, List.append_assoc]
  warnings := by
    rw [hsecond.warnings, hfirst.warnings, List.reverse_append, List.filterMap_append,
      List.append_assoc]

/-- A query is remembered already, or it is read. -/
theorem Finds.reads {tree : Option Query} (h : Finds media engine tree after) :
    media ∈ engine.parsed.names ∧ Reads [] engine after ∨
      media ∉ engine.parsed.names ∧ (∃ reading, Query.parseLogged engine.room media = .ok reading) ∧
        Reads [media] engine after := by
  cases h with
  | remembered hknown =>
    exact .inl ⟨List.mem_map_of_mem (Dict.mem_of_get? hknown),
      SameFiles.reads (.of_eq rfl rfl rfl rfl)⟩
  | @read records hunread hread =>
    have hnew : media ∉ engine.parsed.names := Dict.get?_eq_none_iff.1 hunread
    refine .inr ⟨hnew, ⟨_, hread⟩, ?_, ?_⟩
    · show (engine.parsed.insert media tree).names = _
      rw [Dict.names_insert, if_neg hnew]
    · show Journal.warnings .parser ((records.map .record).reverse ++ _) = _
      rw [(Query.parseLogged_eq_ok hread).2]
      cases hrejected : Query.rejection? media with
      | none => simp [hrejected]
      | some record =>
        obtain ⟨hlevel, hsource⟩ := Query.level_rejection? hrejected
        simp [hrejected, Journal.warnings, hlevel, hsource]

/-- The text that an engine can read as a query is the text of the query. -/
theorem CanRead.eq_display {query : Value} (h : engine.CanRead query media) :
    media = query.display := (display_of_toText h.1).symm

/-- A query that is refused cannot be read. -/
theorem Refuses.not_canRead {query : Value} {fault : Fault} (h : engine.Refuses query fault) :
    ¬ engine.CanRead query media := by
  intro hmedia
  obtain ⟨htext, reading, hread⟩ := hmedia
  obtain rfl := display_of_toText htext
  cases h with
  | textless hnone => cases htext.symm.trans hnone
  | endless _ _ _ hendless => cases hread.symm.trans hendless

/-- What an engine reads that is asked for a query: nothing, if whatever the query can be read as is
remembered or registered, or else the text of the query, which is new. -/
inductive LooksUp (query : Value) (asked last : Engine) : Prop where
  | nothing (hreads : Reads [] asked last)
      (hknown : ∀ media, asked.CanRead query media →
        media ∈ asked.parsed.names ∨ ∃ number, (media, number) ∈ asked.registry.entries)
  | text (hnew : query.display ∉ asked.parsed.names) (hread : asked.CanRead query query.display)
      (hreads : Reads [query.display] asked last)

/-- When the tree of a query was found, no more is read. -/
theorem Finds.looksUp {query : Value} {tree : Option Query} {found last : Engine}
    (h : Finds query.display engine tree found)
    (htext : query.toText engine.room = .ok query.display) (hrest : Reads [] found last) :
    LooksUp query engine last := by
  rcases h.reads with ⟨hold, hreads⟩ | ⟨hnew, hread, hreads⟩
  · refine .nothing (hreads.trans hrest) ?_
    intro media hmedia
    rw [hmedia.eq_display]
    exact .inl hold
  · exact .text hnew ⟨htext, hread⟩ (hreads.trans hrest)

/-- An engine that is asked for a query reads it if it is new and can be read, and no other. -/
theorem looksUp_asks {query : Value} {last : Engine}
    (hdone : matchMedia query engine = .done outcome last) : LooksUp query engine last := by
  have hkept : Reads [] engine engine := SameFiles.reads (.of_eq rfl rfl rfl rfl)
  have hrefuses : ∀ {fault : Fault}, engine.Refuses query fault → LooksUp query engine engine :=
    fun hrefused => .nothing hkept fun _ hmedia => absurd hmedia hrefused.not_canRead
  cases htext : query.toText engine.room with
  | error fault =>
    cases hdone.symm.trans (matchMedia_of_textless htext)
    exact hrefuses (.textless htext)
  | ok text =>
    obtain rfl := display_of_toText htext
    cases asks_of_done hdone with
    | refused hrefused => exact hrefuses hrefused
    | @known number hregistered =>
      refine .nothing hkept ?_
      intro media hmedia
      rw [hmedia.eq_display]
      exact .inr ⟨number, Dict.mem_of_get? hregistered⟩
    | fails hnew hfinds hlevel =>
      exact hfinds.looksUp htext (SameFiles.reads (.of_plain (.noteRecords _ hlevel)))
    | @makes isMatch tree found records hnew hfinds hlevel hfirst =>
      have hnoted := SameFiles.reads (.of_plain (.noteRecords found hlevel))
      exact hfinds.looksUp htext ⟨hnoted.parsed, hnoted.warnings⟩

/-- What is registered is remembered. -/
def RemembersAll (engine : Engine) : Prop :=
  ∀ media number, (media, number) ∈ engine.registry.entries → media ∈ engine.parsed.names

/-- What is registered stays remembered while the files are the same. -/
theorem RemembersAll.same (h : RemembersAll engine) (hsame : SameFiles engine after) :
    RemembersAll after := by
  intro media number hmember
  rw [hsame.registry] at hmember
  rw [hsame.parsed]
  exact h media number hmember

/-- A query is remembered when it is registered. -/
theorem remembersAll_asks {query : Value} {last : Engine} (h : RemembersAll engine)
    (hdone : matchMedia query engine = .done outcome last) : RemembersAll last := by
  -- what is found is remembered then, like all that was remembered before
  have hfound : ∀ {tree : Option Query} {found : Engine}, Finds query.display engine tree found →
      query.display ∈ found.parsed.names ∧ engine.parsed.names ⊆ found.parsed.names := by
    intro tree found hfinds
    rcases hfinds.reads with ⟨hold, hreads⟩ | ⟨-, -, hreads⟩
    · simp [hreads.parsed, hold]
    · simp [hreads.parsed]
  cases asks_of_done hdone with
  | refused hrefused => exact h
  | known hknown => exact h
  | fails hnew hfinds hlevel =>
    intro media number hmember
    exact (hfound hfinds).2 (h media number (hfinds.registry ▸ hmember))
  | makes hnew hfinds hlevel hfirst =>
    intro media number hmember
    rcases Dict.mem_insert hmember with hlast | hold
    · cases hlast
      exact (hfound hfinds).1
    · exact (hfound hfinds).2 (h media number (hfinds.registry ▸ hold))

/-- At every moment what is registered is remembered. -/
theorem remembersAll_sessionAfter (options : EngineOptions)
    (moves : List (Move Request (Except Fault Unit))) :
    RemembersAll (sessionAfter options moves).state := by
  induction moves using List.reverseRecOn with
  | nil => exact fun _ _ hnone => by cases hnone
  | append_singleton moves move ih =>
    cases refiles_sessionAfter options moves move with
    | drops hsame =>
      have hempty : RemembersAll (sessionAfter options moves).state.detachAll :=
        fun _ _ hnone => by cases hnone
      exact hempty.same hsame
    | asks hasked hdone hsame =>
      exact (remembersAll_asks (ih.same (.of_plain (plain_asked hasked))) hdone).same hsame
    | leaves hkept hsilent hsame => exact ih.same hsame

/-- The queries that are remembered after a move: what was asked for just now and could be read, and
what was remembered before, if the engine was not destroyed. -/
theorem Refiles.mem_parsed_iff (h : Refiles move engine after) (hknown : RemembersAll engine) :
    media ∈ after.parsed.names ↔
      Consults engine move media ∨ move ≠ .begin .destroy ∧ media ∈ engine.parsed.names := by
  cases h with
  | @drops engine after hsame =>
    have hnone : ¬ Consults engine (.begin .destroy) media := by
      apply not_consults
      rintro request ⟨⟩
      rfl
    have hempty : media ∉ engine.detachAll.parsed.names := List.not_mem_nil
    rw [hsame.parsed]
    simp [hnone, hempty]
  | @asks request query found engine asked last after hasked hdone hsame =>
    have hplain := plain_asked hasked
    have hregistry : asked.registry = engine.registry := by rw [hplain.same]
    have hparsed : asked.parsed = engine.parsed := by rw [hplain.same]
    rw [hsame.parsed, consults_begin hasked, and_iff_right (ne_destroy_of_asked hasked)]
    cases looksUp_asks hdone with
    | nothing hreads hold =>
      rw [hreads.parsed, hparsed, List.append_nil]
      refine ⟨.inr, ?_⟩
      rintro (hmedia | hmember)
      -- a query with a handle is not looked up, but every such query is remembered
      · rw [hparsed, hregistry] at hold
        exact (hold media hmedia).elim id fun ⟨number, hnumber⟩ => hknown media number hnumber
      · exact hmember
    | text hnew hread hreads =>
      have honly : asked.CanRead query media ↔ media = query.display :=
        ⟨CanRead.eq_display, fun hmedia => hmedia ▸ hread⟩
      rw [hreads.parsed, hparsed, List.mem_append, List.mem_singleton, honly, or_comm]
  | leaves hkept hsilent hsame =>
    rw [hsame.parsed]
    simp [not_consults hsilent, hkept]

/-- Exactly the queries are remembered that the engine was asked for since it was last destroyed and
that it could read. -/
theorem mem_parsed_iff (options : EngineOptions)
    (moves : List (Move Request (Except Fault Unit))) (media : Text) :
    media ∈ (sessionAfter options moves).state.parsed.names ↔
      ConsultedSince options moves media := by
  induction moves using List.reverseRecOn generalizing media with
  | nil => exact iff_of_false List.not_mem_nil not_asked_nil
  | append_singleton moves move ih =>
    have hknown := remembersAll_sessionAfter options moves
    rw [(refiles_sessionAfter options moves move).mem_parsed_iff hknown, ConsultedSince,
      asked_concat, ih]

/-- A move reads no query that is remembered. -/
theorem Refiles.reads (h : Refiles move engine after) (hkept : move ≠ .begin .destroy) :
    ∃ texts, Reads texts engine after ∧ texts.Nodup ∧ ∀ text ∈ texts, text ∉ engine.parsed.names := by
  cases h with
  | drops hsame => exact absurd rfl hkept
  | @asks request query found engine asked last after hasked hdone hsame =>
    have hplain := plain_asked hasked
    have hparsed : asked.parsed = engine.parsed := by rw [hplain.same]
    have hwhole : ∀ {texts}, Reads texts asked last → Reads texts engine after := by
      intro texts hreads
      have hlast := ((SameFiles.of_plain hplain).reads.trans hreads).trans hsame.reads
      rwa [List.nil_append, List.append_nil] at hlast
    cases looksUp_asks hdone with
    | nothing hreads => exact ⟨[], hwhole hreads, List.nodup_nil, by simp⟩
    | text hnew _ hreads =>
      exact ⟨[query.display], hwhole hreads, List.nodup_singleton _, by simpa [hparsed] using hnew⟩
  | leaves hkept hsilent hsame => exact ⟨[], hsame.reads, List.nodup_nil, by simp⟩

/-- While it is not destroyed an engine reads no query twice. -/
theorem reads_interval (options : EngineOptions)
    (before after : List (Move Request (Except Fault Unit))) (hkept : .begin .destroy ∉ after) :
    ∃ texts, Reads texts (sessionAfter options before).state
        (sessionAfter options (before ++ after)).state ∧ texts.Nodup ∧
      ∀ text ∈ texts, text ∉ (sessionAfter options before).state.parsed.names := by
  induction after using List.reverseRecOn with
  | nil =>
    rw [List.append_nil]
    exact ⟨[], SameFiles.reads (.of_eq rfl rfl rfl rfl), List.nodup_nil, by simp⟩
  | append_singleton after move ih =>
    rw [List.mem_append, not_or, List.mem_singleton] at hkept
    obtain ⟨texts, hreads, hdistinct, hnew⟩ := ih hkept.1
    obtain ⟨others, hothers, hapart, hfresh⟩ :=
      (refiles_sessionAfter options (before ++ after) move).reads (Ne.symm hkept.2)
    rw [← List.append_assoc]
    refine ⟨texts ++ others, hreads.trans hothers, ?_, ?_⟩
    · rw [List.nodup_append]
      refine ⟨hdistinct, hapart, ?_⟩
      rintro text htext other hother rfl
      -- what was read since the beginning is remembered, and is not read again
      apply hfresh text hother
      rw [hreads.parsed]
      exact List.mem_append_right _ htext
    · intro text htext
      rcases List.mem_append.1 htext with htext | hother
      · exact hnew text htext
      · intro hold
        apply hfresh text hother
        rw [hreads.parsed]
        exact List.mem_append_left _ hold

/-! ## The registry at every moment -/

/-- What is true of the handles of an engine after some moves of its host. -/
structure IsFaithful (options : EngineOptions) (moves : List (Move Request (Except Fault Unit)))
    (engine : Engine) : Prop where
  /-- The registered handles are those that were given since the engine was last destroyed, each
  under the text that it was asked for. -/
  registered : ∀ media number, (media, number) ∈ engine.registry.entries ↔
    AskedSince options moves media (.ok number)
  distinct : engine.registry.names.Nodup
  keyed : ∀ media number, (media, number) ∈ engine.registry.entries →
    ∃ handle, engine.handle? number = some handle ∧ handle.media = media
  /-- Of the handles that were ever given, those that are not detached are registered. -/
  made : ∀ number, (engine.handle? number).isSome = true ↔
    ∃ media, AskedEver options moves media (.ok number)
  live : ∀ number handle, engine.handle? number = some handle →
    (handle.isDetached = false ↔ number ∈ engine.registered)
  query : ∀ number handle, engine.handle? number = some handle →
    Query.ReadsAs handle.media handle.query
  unread : ∀ number handle, engine.handle? number = some handle → handle.query = none →
    handle.isMatch = false
  /-- Two calls give the same handle if and only if they ask for the same text. -/
  same : ∀ first second one other, AskedSince options moves first (.ok one) →
    AskedSince options moves second (.ok other) → (one = other ↔ first = second)
  /-- The queries that were asked for since the engine was last destroyed are remembered if they could
  be read, whether their handles were made or not. -/
  remembered : ∀ media, media ∈ engine.parsed.names ↔ ConsultedSince options moves media
  /-- In a time in which the engine is not destroyed at most one warning is written of each query. -/
  warned : ∀ before after, moves = before ++ after → .begin .destroy ∉ after →
    ∃ texts : List Text, texts.Nodup ∧ warnings .parser engine.journal =
      texts.filterMap Query.rejection? ++ warnings .parser (sessionAfter options before).state.journal

/-- At every moment of every session the registry, the detached handles and the remembered queries
are what the calls for queries have made of them. -/
theorem isFaithful_sessionAfter (options : EngineOptions)
    (moves : List (Move Request (Except Fault Unit))) :
    IsFaithful options moves (sessionAfter options moves).state := by
  have hfiled := filed_sessionAfter options moves
  have htidy := (upheld_sessionAfter options moves).valid
  have hregistered := mem_registry_iff options moves
  refine ⟨hregistered, hfiled.names, ?keyed, made_iff options moves, ?live, hfiled.query,
    hfiled.unread, ?same, mem_parsed_iff options moves, ?warned⟩
  case keyed =>
    intro media number hmember
    obtain ⟨handle, hhandle, hmedia, -⟩ := hfiled.registry media number hmember
    exact ⟨handle, hhandle, hmedia⟩
  case live =>
    intro number handle hhandle
    refine ⟨htidy.live number handle hhandle, ?_⟩
    intro hmember
    obtain ⟨⟨media, other⟩, hentry, rfl⟩ := List.mem_map.1 hmember
    obtain ⟨kept, hkept, -, hattached⟩ := hfiled.registry media other hentry
    cases hhandle.symm.trans hkept
    exact hattached
  case same =>
    intro first second one other hone hother
    rw [← hregistered] at hone hother
    constructor
    · rintro rfl
      obtain ⟨handle, hhandle, hmedia, -⟩ := hfiled.registry first one hone
      obtain ⟨kept, hkept, hsame, -⟩ := hfiled.registry second one hother
      cases hhandle.symm.trans hkept
      exact hmedia.symm.trans hsame
    · rintro rfl
      have hentry := List.inj_on_of_nodup_map hfiled.names hone hother rfl
      exact congrArg Prod.snd hentry
  case warned =>
    rintro before after rfl hkept
    obtain ⟨texts, hreads, hdistinct, -⟩ := reads_interval options before after hkept
    exact ⟨texts.reverse, List.nodup_reverse.2 hdistinct, hreads.warnings⟩

/-- A query is remembered although it has no handle, if the viewport was too wide for a float when it
was asked for. -/
theorem misread_size_leaves_query_remembered :
    ¬ ∀ (options : EngineOptions) (moves : List (Move Request (Except Fault Unit))) (media : Text),
      media ∈ (sessionAfter options moves).state.parsed.names ↔
        media ∈ (sessionAfter options moves).state.registry.names := by
  intro hall
  have hsame := hall plainOptions
    [.begin (.setRawSize (some (.list [.int (10 ^ 400), .int 800]))),
      .begin (.matchMedia (.text "(hover: none)"))] "(hover: none)"
  revert hsame
  decide +kernel

end Breakpoint.Engine
