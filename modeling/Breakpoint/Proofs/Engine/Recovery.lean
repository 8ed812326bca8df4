import Breakpoint.Proofs.Engine.Agreement
import Breakpoint.Proofs.Engine.Outages
import Breakpoint.Proofs.Engine.Registry
import Breakpoint.Proofs.Query.Depth

/-!
# After the size could not be read

An engine whose viewport failed for a while is left with handles that answer for a size of before,
or that answer no because they were made meanwhile. Nothing else is left of the failure: when the
overrides are set and the size can be read again, every registered handle is brought up to date,
whatever its listeners do, unless the sweep was broken off or a frame is still to come.

A handle is current if it answers what a handle would that was made now. While nothing is to come
after a pass, the handles that it has visited are current.
-/

namespace Breakpoint.Engine

open Journal

variable {engine middle after origin : Engine}

/-! ## Current handles -/

/-- The viewport tells a size of two numbers. -/
def IsRead (engine : Engine) : Prop :=
  ∃ width height, engine.providedSize = .ok (.ok width, .ok height)

/-- Whether the size is told depends on the side of the host alone. -/
theorem IsRead.of_provider (h : engine.IsRead) (hsame : after.provider = engine.provider) :
    after.IsRead := by
  obtain ⟨width, height, hsize⟩ := h
  rw [providedSize] at hsize
  rw [IsRead, providedSize, hsame]
  cases hraw : engine.provider.rawSize with
  | some value =>
    rw [hraw] at hsize
    exact ⟨width, height, hsize⟩
  | none =>
    rw [hraw] at hsize
    split at hsize
    · cases hsize
    · next htold => exact ⟨_, _, if_neg htold⟩

/-- The handle answers what a handle of its query would that was made now. -/
def IsCurrent (engine : Engine) (number : Nat) : Prop :=
  ∃ handle, engine.handle? number = some handle ∧ engine.IsFirstAnswer handle.query handle.isMatch

/-- Every registered handle is current. -/
def IsUpToDate (engine : Engine) : Prop := ∀ number ∈ engine.registered, engine.IsCurrent number

/-- The later engine asks its host alike, keeps the answers, and registers current handles only. -/
structure KeepsCurrent (before after : Engine) : Prop where
  size : after.providedSize = before.providedSize
  overrides : after.overrides = before.overrides
  host : after.host = before.host
  handles : ∀ number handle, before.handle? number = some handle →
    ∃ later, after.handle? number = some later ∧ later.query = handle.query ∧
      later.isMatch = handle.isMatch
  registered : ∀ number ∈ after.registered, number ∈ before.registered ∨ after.IsCurrent number

/-- The answer of a new handle depends on the size, the overrides and the host. -/
theorem IsFirstAnswer.congr {tree : Option Query} {isMatch : Bool}
    (h : engine.IsFirstAnswer tree isMatch) (hsize : after.providedSize = engine.providedSize)
    (hoverrides : after.overrides = engine.overrides) (hhost : after.host = engine.host) :
    after.IsFirstAnswer tree isMatch := by
  cases tree with
  | none => exact h
  | some query =>
    intro width height hread
    rw [surroundings_congr hoverrides hhost]
    exact h width height (hsize.symm.trans hread)

/-- What keeps the answers leaves a current handle current. -/
theorem IsCurrent.keeps {number : Nat} (h : engine.IsCurrent number)
    (hkeeps : KeepsCurrent engine after) : after.IsCurrent number := by
  obtain ⟨handle, hhandle, hanswer⟩ := h
  obtain ⟨later, hlater, hquery, hmatch⟩ := hkeeps.handles number handle hhandle
  refine ⟨later, hlater, ?_⟩
  rw [hquery, hmatch]
  exact hanswer.congr hkeeps.size hkeeps.overrides hkeeps.host

/-- What two changes in turn keep current, both together do. -/
theorem KeepsCurrent.trans (hfirst : KeepsCurrent engine middle)
    (hsecond : KeepsCurrent middle after) : KeepsCurrent engine after where
  size := hsecond.size.trans hfirst.size
  overrides := hsecond.overrides.trans hfirst.overrides
  host := hsecond.host.trans hfirst.host
  handles number handle hhandle := by
    obtain ⟨between, hbetween, hquery, hmatch⟩ := hfirst.handles number handle hhandle
    obtain ⟨later, hlater, hquery', hmatch'⟩ := hsecond.handles number between hbetween
    exact ⟨later, hlater, hquery'.trans hquery, hmatch'.trans hmatch⟩
  registered number hnumber := by
    rcases hsecond.registered number hnumber with hnumber | hcurrent
    · rcases hfirst.registered number hnumber with hnumber | hcurrent
      · exact .inl hnumber
      · exact .inr (hcurrent.keeps hsecond)
    · exact .inr hcurrent

/-- Unless something is to come after it, the change keeps what is current, and nothing was to come
before it. -/
def Spares (before after : Engine) : Prop :=
  after.IsQuiet → before.IsQuiet ∧ KeepsCurrent before after

/-- Two sparing changes in turn are one. -/
theorem Spares.trans (hfirst : Spares engine middle) (hsecond : Spares middle after) :
    Spares engine after := by
  intro hquiet
  obtain ⟨hmiddle, hlater⟩ := hsecond hquiet
  obtain ⟨hbefore, hearlier⟩ := hfirst hmiddle
  exact ⟨hbefore, hearlier.trans hlater⟩

/-- What leaves something to come is sparing. -/
theorem spares_of_not_quiet (h : ¬ after.IsQuiet) : Spares engine after :=
  fun hquiet => absurd hquiet h

/-- A change beside the answers is sparing. -/
theorem Alike.spares (h : Alike engine after) : Spares engine after := by
  intro hquiet
  refine ⟨⟨?_, h.pending.symm.trans hquiet.2⟩, ?_, ?_, ?_, ?_, ?_⟩
  · have hrequest := hquiet.1
    rw [h.same] at hrequest
    exact hrequest
  · rw [h.same]
    rfl
  · rw [h.same]
  · rw [h.same]
  · intro number handle hhandle
    obtain ⟨later, hlater, hsame⟩ := h.handle_later hhandle
    exact ⟨later, hlater, hsame.query, hsame.isMatch⟩
  · intro number hnumber
    rw [h.same] at hnumber
    exact .inl hnumber

/-- Finding a query leaves the handles alone. -/
theorem Alike.finds {media : Text} {tree : Option Query} (h : Finds media engine tree after) :
    Alike engine after := by
  cases h with
  | remembered hknown => exact Alike.refl engine
  | read hunread hread => exact Alike.recalls ⟨_, .inr ⟨⟨_, _, hread⟩, rfl⟩⟩

/-- A handle that is made is current. -/
theorem spares_register {media : Text} {tree : Option Query} {isMatch : Bool}
    (hfirst : engine.IsFirstAnswer tree isMatch) :
    Spares engine (engine.register { media, query := tree, isMatch }) := by
  intro hquiet
  refine ⟨hquiet, rfl, rfl, rfl, ?_, ?_⟩
  · intro number handle hhandle
    have hold : number < engine.handles.length := (List.getElem?_eq_some_iff.1 hhandle).1
    refine ⟨handle, ?_, rfl, rfl⟩
    rw [handle?_register, if_neg (Nat.ne_of_lt hold), hhandle]
  · intro number hnumber
    obtain ⟨⟨name, value⟩, hentry, rfl⟩ := List.mem_map.1 hnumber
    rcases Dict.mem_insert hentry with hnew | hold
    · cases hnew
      refine .inr ⟨_, (handle?_register _ _ _).trans (if_pos rfl), ?_⟩
      exact hfirst.congr rfl rfl rfl
    · exact .inl (List.mem_map.2 ⟨_, hold, rfl⟩)

/-- Asking for a query is sparing. -/
theorem spares_asks {query : Value} {outcome : Except Fault Nat}
    (h : matchMedia query engine = .done outcome after) : Spares engine after := by
  cases asks_of_done h with
  | refused hrefused => exact (Alike.refl engine).spares
  | known hknown => exact (Alike.refl engine).spares
  | fails hnew hfinds hlevel => exact (Alike.finds hfinds).spares.trans (Alike.noteRecords _ _).spares
  | @makes isMatch tree found records hnew hfinds hlevel hfirst =>
    have hnoted := (Alike.finds hfinds).spares.trans (Alike.noteRecords records found).spares
    exact hnoted.trans (spares_register (hfirst.congr rfl rfl rfl))

/-- A new size leaves a frame to come. -/
theorem spares_resize (hobserving : engine.isObserving = true)
    (hobservers : engine.viewport.observers ≠ []) (width height : Extent) :
    Spares engine (engine.resize width height) := by
  obtain ⟨pacer, hresize, hframe⟩ := engine.resize_eq width height
  have hpending := hframe hobserving hobservers
  apply spares_of_not_quiet
  rw [hresize]
  intro hquiet
  cases hpending.symm.trans hquiet.2

/-! ## The side of the host -/

/-- The later engine has the same host and limit, and observes its viewport as before. -/
structure SameSide (before after : Engine) : Prop where
  provider : after.provider = before.provider
  host : after.host = before.host
  limit : after.followUps = before.followUps
  observing : after.isObserving = before.isObserving
  observers : after.viewport.observers = before.viewport.observers

/-- What two changes in turn leave to the side of the host, both together do. -/
theorem SameSide.trans (hfirst : SameSide engine middle) (hsecond : SameSide middle after) :
    SameSide engine after where
  provider := hsecond.provider.trans hfirst.provider
  host := hsecond.host.trans hfirst.host
  limit := hsecond.limit.trans hfirst.limit
  observing := hsecond.observing.trans hfirst.observing
  observers := hsecond.observers.trans hfirst.observers

/-- The side of the host is as it is. -/
theorem SameSide.refl (engine : Engine) : SameSide engine engine := ⟨rfl, rfl, rfl, rfl, rfl⟩

/-- A change beside the answers leaves the side of the host alone. -/
theorem Alike.sameSide (h : Alike engine after) : SameSide engine after := by
  constructor <;> rw [h.same]

/-- Asking for a query leaves the side of the host alone. -/
theorem sameSide_asks {query : Value} {outcome : Except Fault Nat}
    (h : matchMedia query engine = .done outcome after) : SameSide engine after := by
  cases asks_of_done h with
  | refused hrefused => exact .refl engine
  | known hknown => exact .refl engine
  | fails hnew hfinds hlevel => exact (Alike.finds hfinds).sameSide.trans ⟨rfl, rfl, rfl, rfl, rfl⟩
  | makes hnew hfinds hlevel hfirst =>
    exact (Alike.finds hfinds).sameSide.trans ⟨rfl, rfl, rfl, rfl, rfl⟩

/-- Another size of the viewport leaves the side of the host alone. -/
theorem sameSide_resize (width height : Extent) :
    SameSide engine (engine.resize width height) := by
  obtain ⟨pacer, hresize, -⟩ := engine.resize_eq width height
  rw [hresize]
  exact ⟨rfl, rfl, rfl, rfl, rfl⟩

/-- What prompts a sweep leaves the side of the host alone. -/
theorem sameSide_of_prompts {request : Request} {reason : SweepReason} {answer : Answer}
    (h : Prompts request engine reason answer after) : SameSide engine after := by
  cases h <;> exact ⟨rfl, rfl, rfl, rfl, rfl⟩

/-- Every step of a sweep leaves the side of the host alone. -/
theorem Stage.Step.sameSide {stage next : Stage} (h : stage.Step engine next after) :
    SameSide engine after := by
  cases h <;> exact ⟨rfl, rfl, rfl, rfl, rfl⟩

/-- A sweep leaves the side of the host alone between two calls. -/
theorem Stage.Reaches.sameSide {stage next : Stage} (h : stage.Reaches engine next after) :
    SameSide engine after := by
  induction h with
  | refl stage engine => exact .refl engine
  | step hstep hrest ih => exact hstep.sameSide.trans ih

/-- What a turn hears from its callback is beside the answers. -/
theorem Alike.hear (turn : Turn) (reply : Except Fault Unit) (engine : Engine) :
    Alike engine (turn.hear reply engine) := by
  cases reply with
  | ok result => exact Alike.refl engine
  | error fault => exact Alike.note _ engine

/-! ## Sweeps -/

/-- So many warnings of the engine were written. -/
def warned (engine : Engine) : Nat := (warnings .engine engine.journal).length

/-- What is added to the journal takes no warning back. -/
theorem warned_le_of_adds {kind : Entry → Prop} (h : Adds kind engine.journal after.journal) :
    engine.warned ≤ after.warned := by
  obtain ⟨added, -, hjournal⟩ := h
  have hwarnings : warnings .engine after.journal =
      warnings .engine added ++ warnings .engine engine.journal := by
    rw [hjournal]
    exact List.filterMap_append
  rw [warned, warned, hwarnings, List.length_append]
  exact Nat.le_add_left _ _

/-- The engine has warned since some moment, or a frame is to come, or every registered handle is
current. -/
def IsRecovered (origin engine : Engine) : Prop :=
  origin.warned < engine.warned ∨ engine.pacer.isPending = true ∨ engine.IsUpToDate

/-- A tour has yet to visit some handles: if nothing is to come after it, it took the size and the
preferences that there are, and the other handles are current. -/
def Tour.Covers (tour : Tour) (rest : List Nat) (engine : Engine) : Prop :=
  engine.IsQuiet → engine.providedSize = .ok (.ok tour.size.1, .ok tour.size.2) ∧
    tour.host = engine.preferences ∧ ∀ number ∈ engine.registered, number ∉ rest →
      engine.IsCurrent number

/-- How far a sweep has brought the handles at a stage. -/
def Stage.Recovers (origin : Engine) : Stage → Engine → Prop
  | .starting _, _ => True
  | .visiting tour rest, engine => tour.Covers rest engine
  | .opening announcement, engine | .listing announcement, engine
  | .telling announcement _, engine => announcement.tour.Covers announcement.rest engine
  | .passed _, engine => engine.IsQuiet → engine.IsUpToDate
  | .closing _, engine => IsRecovered origin engine

/-- What spares the current handles leaves what a tour has yet to visit. -/
theorem Tour.Covers.spares {tour : Tour} {rest : List Nat} (h : tour.Covers rest engine)
    (hspares : Spares engine after) : tour.Covers rest after := by
  intro hquiet
  obtain ⟨hbefore, hkeeps⟩ := hspares hquiet
  obtain ⟨hsize, hhost, hcurrent⟩ := h hbefore
  refine ⟨hkeeps.size.trans hsize, ?_, ?_⟩
  · rw [hhost, preferences, preferences, hkeeps.host]
  · intro number hnumber hrest
    rcases hkeeps.registered number hnumber with hold | hnew
    · exact (hcurrent number hold hrest).keeps hkeeps
    · exact hnew

/-- A handle that was visited is current. -/
theorem Tour.Covers.visited {tour : Tour} {number : Nat} {rest : List Nat}
    (h : tour.Covers (number :: rest) engine)
    (hvisited : engine.providedSize = .ok (.ok tour.size.1, .ok tour.size.2) →
      tour.host = engine.preferences → number ∈ engine.registered → engine.IsCurrent number) :
    tour.Covers rest engine := by
  intro hquiet
  obtain ⟨hsize, hhost, hcurrent⟩ := h hquiet
  refine ⟨hsize, hhost, ?_⟩
  intro other hother hrest
  by_cases hsame : other = number
  · subst hsame
    exact hvisited hsize hhost hother
  · apply hcurrent other hother
    rw [List.mem_cons, not_or]
    exact ⟨hsame, hrest⟩

/-- The change of an answer makes its handle current and leaves the others as they are. -/
theorem Tour.Covers.changeAnswer {tour : Tour} {number : Nat} {rest : List Nat} {handle : Handle}
    {query : Query} {isMatch : Bool} (h : tour.Covers (number :: rest) engine)
    (hhandle : engine.handle? number = some handle) (hquery : handle.query = some query)
    (hanswer : query.evaluate (engine.surroundings tour.size tour.host) = .ok isMatch) :
    tour.Covers rest (engine.changeAnswer number isMatch) := by
  intro hquiet
  obtain ⟨hsize, hhost, hcurrent⟩ := h hquiet
  refine ⟨hsize, hhost, ?_⟩
  intro other hother hrest
  have hlookup : (engine.changeAnswer number isMatch).handle? other =
      if number = other then (engine.handle? other).map ({ · with isMatch })
      else engine.handle? other := by
    rw [Engine.changeAnswer, handle?_note, handle?_changeHandle]
  by_cases hsame : number = other
  · subst hsame
    rw [if_pos rfl, hhandle] at hlookup
    refine ⟨_, hlookup, ?_⟩
    show (engine.changeAnswer number isMatch).IsFirstAnswer handle.query isMatch
    rw [hquery]
    intro width height hread
    cases hsize.symm.trans hread
    rw [hhost] at hanswer
    exact hanswer
  · have hvisited : other ∉ number :: rest := by
      rw [List.mem_cons, not_or]
      exact ⟨Ne.symm hsame, hrest⟩
    obtain ⟨kept, hkept, hkeptAnswer⟩ := hcurrent other hother hvisited
    rw [if_neg hsame] at hlookup
    exact ⟨kept, hlookup.trans hkept, hkeptAnswer.congr rfl rfl rfl⟩

/-- A step of a sweep that can read the size brings the handles further. -/
theorem Stage.Step.recovers {stage next : Stage} {limit : Int} (hread : engine.IsRead)
    (hlimit : engine.followUps = .atMost limit) (hwarned : origin.warned ≤ engine.warned)
    (hfiled : engine.IsFiled) (hfits : stage.Fits engine) (hstep : stage.Step engine next after)
    (h : stage.Recovers origin engine) : next.Recovers origin after := by
  cases hstep with
  | unreadable hsize =>
    obtain ⟨width, height, htold⟩ := hread
    cases htold.symm.trans hsize
  | misread hsize hfault =>
    obtain ⟨width, height, htold⟩ := hread
    cases htold.symm.trans hsize
    cases hfault
  | reads hsize =>
    intro _
    exact ⟨hsize, rfl, fun number hnumber hrest => absurd hnumber hrest⟩
  | @skips tour number rest engine hsame =>
    refine Tour.Covers.visited h ?_
    intro hsize hhost hregistered
    obtain ⟨⟨media, other⟩, hentry, rfl⟩ := List.mem_map.1 hregistered
    obtain ⟨handle, hhandle, -, hattached⟩ := hfiled.registry media other hentry
    refine ⟨handle, hhandle, ?_⟩
    cases hquery : handle.query with
    | none => exact hfiled.unread other handle hhandle hquery
    | some query =>
      intro width height htold
      cases hsize.symm.trans htold
      rw [← hhost]
      exact hsame handle query hhandle hquery hattached
  | fails hhandle hquery hattached hfault =>
    obtain ⟨isMatch, hanswer⟩ := hfiled.evaluate_isOk hhandle hquery _
    cases hanswer.symm.trans hfault
  | changes hhandle hquery hattached hanswer hchange =>
    exact Tour.Covers.changeAnswer h hhandle hquery hanswer
  | visited =>
    intro hquiet number hnumber
    exact (h hquiet).2.2 number hnumber List.not_mem_nil
  | unslotted hslot => exact h
  | lists => exact h
  | closes => exact Tour.Covers.spares h (Alike.note _ _).spares
  | rests hrequest =>
    cases hpending : engine.pacer.isPending with
    | true => exact .inr (.inl hpending)
    | false => exact .inr (.inr (h ⟨hrequest, hpending⟩))
  | stalls hrequest hallowed =>
    obtain ⟨allowed, hsome, -⟩ := hfits.allowed_eq hlimit
    cases hsome.symm.trans hallowed
  | givesUp hrequest hallowed => exact .inl (Nat.lt_succ_of_le hwarned)
  | follows hrequest hallowed => trivial

/-! ## Moves -/

/-- The state of a session since some moment: the side of the host is the same, and what was brought
up to date is as far as the sweep that is suspended, or all of it if no sweep is under way. -/
structure IsRecovering (origin : Engine) (waiting : List Suspension) (engine : Engine) : Prop where
  side : SameSide origin engine
  warned : origin.warned ≤ engine.warned
  suspended : ∀ turn ∈ turns waiting, turn.continued.Recovers origin engine
  rested : engine.isSweeping = false → IsRecovered origin engine

/-- The host can be asked for a size and is asked again after each new one, and a sweep ends. -/
structure IsAble (limit : Int) (engine : Engine) : Prop where
  read : engine.IsRead
  limit : engine.followUps = .atMost limit
  observing : engine.isObserving = true
  observers : engine.viewport.observers ≠ []

/-- What can ask for the size still can while the side of the host is the same. -/
theorem SameSide.isAble {limit : Int} (h : SameSide engine after) (hable : IsAble limit engine) :
    IsAble limit after where
  read := hable.read.of_provider h.provider
  limit := h.limit.trans hable.limit
  observing := h.observing.trans hable.observing
  observers := by
    rw [h.observers]
    exact hable.observers

section Moves

variable {limit : Int} {move : Move Request (Except Fault Unit)} {waiting now : List Suspension}
  {event : Event} {stage : Stage} {answer : Answer}

/-- A sweep that goes on stops with its handles brought further, or with all of them current. -/
theorem Arrives.recovers (hable : IsAble limit origin)
    (h : Arrives (.sweeps stage answer waiting) engine event now after)
    (hnone : turns waiting = []) (hfits : stage.Fits engine) (hfiled : engine.IsFiled)
    (hside : SameSide origin engine) (hwarned : origin.warned ≤ engine.warned)
    (hstage : stage.Recovers origin engine) : IsRecovering origin now after := by
  refine h.keeps
    (fun stage engine => (SameSide origin engine ∧ origin.warned ≤ engine.warned) ∧
      stage.Recovers origin engine) (IsRecovering origin) ?_ ?_ ?_ hfits hfiled
    ⟨⟨hside, hwarned⟩, hstage⟩
  · rintro stage engine next after hfits hfiled hstep ⟨⟨hside, hwarned⟩, hstage⟩
    have hnow := hside.isAble hable
    refine ⟨⟨hside.trans hstep.sameSide, hwarned.trans (warned_le_of_adds hstep.adds)⟩, ?_⟩
    exact hstep.recovers hnow.read hnow.limit hwarned hfiled hfits hstage
  · rintro outcome engine hclosing ⟨⟨hside, hwarned⟩, hrecovered⟩
    refine ⟨hside.trans ⟨rfl, rfl, rfl, rfl, rfl⟩, hwarned, ?_, fun _ => ?_⟩
    · rw [hnone]
      simp
    · exact hrecovered
  · rintro stop turn listener engine hfits hcalls ⟨⟨hside, hwarned⟩, hstage⟩
    have hcovers : turn.announcement.tour.Covers turn.announcement.rest engine := by
      cases hcalls <;> exact hstage
    have htold : turn.announcement.tour.Covers turn.announcement.rest
        (engine.noteTurn turn.announcement listener) :=
      hcovers.spares (Alike.noteTold _ _ _ _).spares
    refine ⟨hside.trans ⟨rfl, rfl, rfl, rfl, rfl⟩, hwarned, ?_, ?_⟩
    · rw [turns_telling hnone]
      intro other hother
      cases List.mem_singleton.1 hother
      cases hcalls <;> exact htold
    · intro hidle
      cases hidle.symm.trans (Turn.sweeping (hcalls.fits hfits))

/-- An ordinary move leaves the side of the host as it is up to where the sweep goes on. -/
theorem HostStep.sameSide {outset : Outset} (hordinary : move.Begins Request.IsOrdinary)
    (h : HostStep move waiting engine outset after) : SameSide engine after := by
  cases h with
  | changes hchange =>
    rcases Request.IsOrdinary.change_cases hordinary hchange with ⟨width, height, rfl⟩ | halike
    · exact sameSide_resize width height
    · exact (halike engine).sameSide
  | asks hasks => exact sameSide_asks hasks
  | binds hasks =>
    exact ((Alike.addBinding _ _).sameSide.trans (sameSide_asks hasks)).trans (Alike.note _ _).sameSide
  | refuses hasks hlevel =>
    have hasked := (Alike.addBinding _ _).sameSide.trans (sameSide_asks hasks)
    exact (hasked.trans (Alike.noteRecords _ _).sameSide).trans (Alike.note _ _).sameSide
  | declines hfault => exact (Alike.noteRecords _ _).sameSide
  | joinsSweep hprompts hsweeping =>
    exact (sameSide_of_prompts hprompts).trans ⟨rfl, rfl, rfl, rfl, rfl⟩
  | beginsSweep hprompts hfree =>
    exact (sameSide_of_prompts hprompts).trans ⟨rfl, rfl, rfl, rfl, rfl⟩
  | hears => exact (Alike.hear _ _ engine).sameSide
  | joins =>
    exact (Alike.listen _ _ engine).sameSide.trans (Alike.joinBinding _ _ _).sameSide
  | idles => exact .refl engine
  | drops => exact .refl engine
  | leaves => exact .refl engine

/-- A move after which the host has control at once spares the current handles. -/
theorem HostStep.spares (hable : IsAble limit engine) (hordinary : move.Begins Request.IsOrdinary)
    (h : HostStep move waiting engine (.rests event now) after) : Spares engine after := by
  cases h with
  | changes hchange =>
    rcases Request.IsOrdinary.change_cases hordinary hchange with ⟨width, height, rfl⟩ | halike
    · exact spares_resize hable.observing hable.observers width height
    · exact (halike engine).spares
  | asks hasks => exact spares_asks hasks
  | binds hasks =>
    exact ((Alike.addBinding _ _).spares.trans (spares_asks hasks)).trans (Alike.note _ _).spares
  | refuses hasks hlevel =>
    have hasked := (Alike.addBinding _ _).spares.trans (spares_asks hasks)
    exact (hasked.trans (Alike.noteRecords _ _).spares).trans (Alike.note _ _).spares
  | declines hfault => exact (Alike.noteRecords _ _).spares
  | joinsSweep hprompts hsweeping =>
    apply spares_of_not_quiet
    intro hquiet
    cases hquiet.1
  | joins => exact (Alike.listen _ _ engine).spares.trans (Alike.joinBinding _ _ _).spares
  | idles => exact (Alike.refl engine).spares
  | drops => exact (Alike.refl engine).spares
  | leaves => exact (Alike.refl engine).spares

/-- Outside of a sweep no further pass is asked for. -/
theorem IsRecovered.spares (h : IsRecovered origin engine) (hwarned : engine.warned = after.warned)
    (hrequest : after.followUpRequested = false) (hspares : Spares engine after) :
    IsRecovered origin after := by
  cases hpending : after.pacer.isPending with
  | true => exact .inr (.inl hpending)
  | false =>
    obtain ⟨hquiet, hkeeps⟩ := hspares ⟨hrequest, hpending⟩
    rcases h with hmore | hframe | hcurrent
    · exact .inl (hmore.trans_eq hwarned)
    · cases hframe.symm.trans hquiet.2
    · refine .inr (.inr ?_)
      intro number hnumber
      rcases hkeeps.registered number hnumber with hold | hnew
      · exact (hcurrent number hold).keeps hkeeps
      · exact hnew

/-- An ordinary move brings the handles further, or leaves them as far as they are. -/
theorem Leads.recovers (hable : IsAble limit origin) (hordinary : move.Begins Request.IsOrdinary)
    (hfiled : engine.IsFiled) (hpoised : Poised waiting engine)
    (h : Leads move waiting engine event now after) (hbefore : IsRecovering origin waiting engine) :
    IsRecovering origin now after := by
  obtain ⟨outset, middle, hhost, harrives⟩ := h
  cases outset with
  | rests event rest =>
    cases harrives
    have hspares := hhost.spares (hbefore.side.isAble hable) hordinary
    have hquiet := Quiet.of_hostStep hhost
    have hcount : engine.warned = after.warned := congrArg List.length (warnings_quiet hquiet).symm
    refine ⟨hbefore.side.trans (hhost.sameSide hordinary), hbefore.warned.trans_eq hcount, ?_, ?_⟩
    · intro turn hturn
      rw [hhost.turns_eq] at hturn
      have hcovers := hbefore.suspended turn hturn
      cases turn <;> exact Tour.Covers.spares hcovers hspares
    · intro hidle
      have hnow := hhost.poised hpoised
      cases hnow with
      | suspended hone hfits => cases hidle.symm.trans (Turn.sweeping hfits)
      | free hnone hfree =>
        refine (hbefore.rested (hquiet.sweeping.symm.trans hidle)).spares hcount ?_ hspares
        apply hfree.request
        rw [hquiet.limit, hbefore.side.limit, hable.limit]
        simp
  | sweeps stage answer rest =>
    obtain ⟨hnone, hfits⟩ := hhost.fits hpoised
    have hmiddle := hfiled.hostStep hhost
    have hmoved := hbefore.side.trans (hhost.sameSide hordinary)
    cases hhost with
    | @beginsSweep request reason answer waiting engine entry hprompts hfree =>
      have hcount : engine.warned = entry.warned :=
        congrArg List.length (warnings_quiet (.of_plain (.of_prompts hprompts))).symm
      exact harrives.recovers hable hnone hfits hmiddle hmoved (hbefore.warned.trans_eq hcount) trivial
    | @hears turn answer reply waiting engine =>
      have hcount : engine.warned = (turn.hear reply engine).warned :=
        congrArg List.length (warnings_quiet (.of_plain (.hear turn reply engine))).symm
      have hspares := (Alike.hear turn reply engine).spares
      have hcovers := hbefore.suspended turn List.mem_cons_self
      refine harrives.recovers hable hnone hfits hmiddle hmoved (hbefore.warned.trans_eq hcount) ?_
      cases turn <;> exact Tour.Covers.spares hcovers hspares

/-- When overrides are set that are not refused, the sweep under way takes a further pass, or one
begins. -/
theorem Leads.recovers_of_setOverrides {values : Dict Value} (hable : IsAble limit engine)
    (haccepted : Overrides.fault? engine.room values = none) (hfiled : engine.IsFiled)
    (hpoised : Poised waiting engine)
    (h : Leads (.begin (.setOverrides values)) waiting engine event now after) :
    IsRecovering engine now after := by
  obtain ⟨outset, middle, hhost, harrives⟩ := h
  have hcount : ∀ {entry : Engine} {reason : SweepReason} {answer : Answer},
      Prompts (.setOverrides values) engine reason answer entry → engine.warned = entry.warned :=
    fun hprompts => congrArg List.length (warnings_quiet (.of_plain (.of_prompts hprompts))).symm
  cases outset with
  | rests event rest =>
    cases harrives
    cases hhost with
    | changes hchange => cases hchange
    | declines hfault => cases haccepted.symm.trans hfault
    | @joinsSweep request reason answer waiting engine entry hprompts hsweeping =>
      have hside := (sameSide_of_prompts hprompts).trans
        (⟨rfl, rfl, rfl, rfl, rfl⟩ : SameSide entry entry.requestFollowUp)
      refine ⟨hside, (hcount hprompts).le, ?_, ?_⟩
      · intro turn _
        cases turn <;>
        · intro hquiet
          cases hquiet.1
      · intro hidle
        have hstill : entry.isSweeping = engine.isSweeping := by cases hprompts; rfl
        cases hidle.symm.trans (hstill.trans hsweeping)
  | sweeps stage answer rest =>
    obtain ⟨hnone, hfits⟩ := hhost.fits hpoised
    have hmiddle := hfiled.hostStep hhost
    have hordinary : (.begin (.setOverrides values) : Move Request (Except Fault Unit)).Begins
      Request.IsOrdinary := trivial
    have hmoved := hhost.sameSide hordinary
    cases hhost with
    | beginsSweep hprompts hfree =>
      exact harrives.recovers hable hnone hfits hmiddle hmoved (hcount hprompts).le trivial

/-- A sweep that goes on leaves the side of the host as it is. -/
theorem Arrives.sameSide {outset : Outset} (h : Arrives outset engine event now after) :
    SameSide engine after := by
  cases h with
  | rests => exact .refl engine
  | ends hreaches | calls hreaches =>
    exact hreaches.sameSide.trans ⟨rfl, rfl, rfl, rfl, rfl⟩

/-- An engine that is not destroyed observes its viewport. -/
theorem Leads.observing (hkept : move ≠ .begin .destroy)
    (h : Leads move waiting engine event now after) : after.isObserving = engine.isObserving := by
  obtain ⟨outset, middle, hhost, harrives⟩ := h
  refine harrives.sameSide.observing.trans ?_
  by_cases hordinary : move.Begins Request.IsOrdinary
  · exact (hhost.sameSide hordinary).observing
  · cases move with
    | answer reply => exact absurd trivial hordinary
    | begin request =>
      cases request with
      | destroy => exact absurd rfl hkept
      | setHost _ | failSize _ | failUnobserve _ | setRawSize _ =>
        cases hhost with
        | changes hchange =>
          cases hchange
          rfl
        | joinsSweep hprompts | beginsSweep hprompts => cases hprompts
      | _ => exact absurd trivial hordinary

end Moves

/-! ## Sessions -/

section Sessions

variable (options : EngineOptions) {moves : List (Move Request (Except Fault Unit))}

/-- An engine that was never destroyed observes its viewport. -/
theorem observing_sessionAfter (hmoves : .begin .destroy ∉ moves) :
    (sessionAfter options moves).state.isObserving = true := by
  have hkept : ∀ move ∈ moves, move ≠ .begin .destroy := by
    rintro move hmove rfl
    exact hmoves hmove
  obtain ⟨now, -, hobserving⟩ := (stands_new options).run_of
    (fun _ engine => engine.isObserving = true) (· ≠ .begin .destroy)
    (fun hallowed _ _ hleads hbefore => (hleads.observing hallowed).trans hbefore) rfl hkept
  exact hobserving

/-- A query that was asked for stays registered while the engine is not destroyed. -/
theorem registered_later {later : List (Move Request (Except Fault Unit))}
    (hlater : .begin .destroy ∉ later) {media : Text} {number : Nat}
    (h : (media, number) ∈ (sessionAfter options moves).state.registry.entries) :
    (media, number) ∈ (sessionAfter options (moves ++ later)).state.registry.entries := by
  rw [mem_registry_iff] at h ⊢
  obtain ⟨before, move, after, rfl, hkept, hinquires⟩ := h
  refine ⟨before, move, after ++ later, by simp, ?_, hinquires⟩
  intro other hother
  rcases List.mem_append.1 hother with hother | hother
  · exact hkept other hother
  · rintro rfl
    exact hlater hother

variable {options} {limit : Int}

/-- An engine that was never destroyed can ask for the size whenever the viewport tells it. -/
theorem isAble_sessionAfter (hlimit : options.followUps = .atMost limit)
    (hmoves : .begin .destroy ∉ moves) (hread : (sessionAfter options moves).state.IsRead) :
    IsAble limit (sessionAfter options moves).state := by
  have hoptions : { options with followUps := .atMost limit } = options := by rw [← hlimit]
  obtain ⟨waiting, hstands, hbounded⟩ := bounded_sessionAfter options limit moves
  rw [hoptions] at hstands hbounded
  have hobserving := observing_sessionAfter options hmoves
  refine ⟨hread, hbounded.limit, hobserving, ?_⟩
  rw [hstands.upheld.valid.observing hobserving]
  exact List.cons_ne_nil _ _

/-- When the overrides are set while the size can be read, and are not refused, every registered
handle is current as soon as no sweep is under way, unless the engine has warned or a frame is to
come. -/
theorem isUpToDate_after_setOverrides {values : Dict Value}
    {during : List (Move Request (Except Fault Unit))} {last : EngineSession}
    (hlimit : options.followUps = .atMost limit) (hmoves : .begin .destroy ∉ moves)
    (hread : (sessionAfter options moves).state.IsRead)
    (haccepted : Overrides.fault? (sessionAfter options moves).state.room values = none)
    (hlast : last = (sessionAfter options moves).run perform (.begin (.setOverrides values) :: during))
    (hordinary : ∀ move ∈ during, move.Begins Request.IsOrdinary)
    (hidle : last.state.isSweeping = false) (hframe : last.state.pacer.isPending = false)
    (hwarned : last.state.warned = (sessionAfter options moves).state.warned) :
    last.state.IsRead ∧ last.state.IsUpToDate := by
  have hable := isAble_sessionAfter hlimit hmoves hread
  obtain ⟨waiting, hstands⟩ := stands_sessionAfter options moves
  rcases hstands.step (.begin (.setOverrides values)) with
    ⟨-, ⟨reply, hreply⟩, -⟩ | ⟨event, first, hleads, hfirst, -⟩
  · cases hreply
  · have hset := hleads.recovers_of_setOverrides hable haccepted hstands.filed hstands.poised
    obtain ⟨now, -, hrecovering⟩ := hfirst.run_of (IsRecovering (sessionAfter options moves).state)
      (·.Begins Request.IsOrdinary) (fun hallowed hfiled hpoised hleads hbefore =>
        hleads.recovers hable hallowed hfiled hpoised hbefore) hset hordinary
    have hrun : last = ((sessionAfter options moves).step perform
        (.begin (.setOverrides values))).run perform during := hlast
    rw [← hrun] at hrecovering
    refine ⟨hread.of_provider hrecovering.side.provider, ?_⟩
    rcases hrecovering.rested hidle with hmore | hpending | hcurrent
    · exact absurd hwarned hmore.ne'
    · cases hframe.symm.trans hpending
    · exact hcurrent

end Sessions

/-- The handle of a text answers what the query of the text evaluates to for the size that the
viewport tells, the overrides and the preferences of the host. -/
def AnswersNow (engine : Engine) (media : Text) (number : Nat) : Prop :=
  ∃ handle, engine.handle? number = some handle ∧ handle.media = media ∧
    Query.ReadsAs media handle.query ∧
    ∀ query, handle.query = some query → ∃ width height,
      engine.providedSize = .ok (.ok width, .ok height) ∧
        query.evaluate ⟨width, height, Overrides.toValues engine.overrides, engine.preferences⟩ =
          .ok handle.isMatch

/-- A current handle answers for its text. -/
theorem IsCurrent.answersNow {media : Text} {number : Nat} (h : engine.IsCurrent number)
    (hread : engine.IsRead) (hfiled : engine.IsFiled)
    (hregistered : (media, number) ∈ engine.registry.entries) : engine.AnswersNow media number := by
  obtain ⟨width, height, htold⟩ := hread
  obtain ⟨handle, hhandle, hmedia, -⟩ := hfiled.registry media number hregistered
  obtain ⟨same, hsame, hanswer⟩ := h
  cases hhandle.symm.trans hsame
  refine ⟨handle, hhandle, hmedia, hmedia ▸ hfiled.query number handle hhandle, ?_⟩
  intro query hquery
  refine ⟨width, height, htold, ?_⟩
  rw [hquery] at hanswer
  exact hanswer width height htold

/-- While the viewport of an engine does not tell its size, whatever is asked of the engine ends at
once, no handle that was there changes and nobody is told anything, and the handles that are made
answer no. Only a query that cannot be read and overrides without a text are refused, and then
nothing is left behind but records. When the size can be read again at some later time, and
overrides are set then that are not refused: as soon as no sweep is under way, no frame is to come
and no sweep has been broken off, every registered handle answers what its query evaluates to for
the size of now and the overrides of now, whatever the listeners have done meanwhile. The handles
that were registered during the failure are among these. -/
theorem recovers_from_outage (options : EngineOptions) {limit : Int}
    (hlimit : options.followUps = .atMost limit)
    (before between during : List (Move Request (Except Fault Unit))) (requests : List Request)
    (values : Dict Value) (hunread : (sessionAfter options before).state.IsUnread)
    (hroutine : ∀ request ∈ requests, request.IsRoutine) :
    let failing := sessionAfter options before
    let weathered := sessionAfter options (before ++ asking requests)
    let restored := sessionAfter options (before ++ asking requests ++ between)
    let last := sessionAfter options (before ++ asking requests ++ between ++
      .begin (.setOverrides values) :: during)
    IsWeathered requests failing weathered ∧
      (.begin .destroy ∉ before → .begin .destroy ∉ between → restored.state.IsRead →
        Overrides.fault? restored.state.room values = none →
        (∀ move ∈ during, move.Begins Request.IsOrdinary) →
        last.state.isSweeping = false → last.state.pacer.isPending = false →
        warnings .engine last.state.journal = warnings .engine restored.state.journal →
        (∀ entry ∈ weathered.state.registry.entries, entry ∈ last.state.registry.entries) ∧
        ∀ media number, (media, number) ∈ last.state.registry.entries →
          last.state.AnswersNow media number) := by
  intro failing weathered restored last
  have hweathered : weathered = failing.run perform (asking requests) :=
    sessionAfter_append _ before (asking requests)
  refine ⟨hweathered ▸ isWeathered_run hunread hroutine, ?_⟩
  intro hbefore hbetween hread haccepted hordinary hidle hframe hwarnings
  have hrequests : .begin .destroy ∉ asking requests := by
    intro hmember
    obtain ⟨request, hrequest, hdestroy⟩ := List.mem_map.1 hmember
    cases hdestroy
    exact hroutine _ hrequest
  have hduring : .begin .destroy ∉ during := fun hmember => hordinary _ hmember
  have hearlier : .begin .destroy ∉ before ++ asking requests ++ between := by
    simp [hbefore, hrequests, hbetween]
  obtain ⟨hreadNow, hcurrent⟩ := isUpToDate_after_setOverrides hlimit hearlier hread haccepted
    (sessionAfter_append _ _ (.begin (.setOverrides values) :: during)) hordinary hidle hframe
    (congrArg List.length hwarnings)
  constructor
  · rintro ⟨media, number⟩ hregistered
    have hlater : .begin .destroy ∉ between ++ .begin (.setOverrides values) :: during := by
      simp [hbetween, hduring]
    have hkept := registered_later options hlater hregistered
    rw [← List.append_assoc] at hkept
    exact hkept
  · intro media number hregistered
    have hcurrentNow := hcurrent number (List.mem_map.2 ⟨_, hregistered, rfl⟩)
    exact hcurrentNow.answersNow hreadNow (filed_sessionAfter options _) hregistered

/-- A query is asked for and listened to, and then the viewport fails. -/
def outageMoves : List (Move Request (Except Fault Unit)) :=
  [.begin (.matchMedia (.text "(hover: none)")), .begin (.addListener 0 (some (.named "f"))),
    .begin (.failSize true)]

/-- Overrides, a query and a size for an engine that cannot read the size, and a frame. -/
def outageRequests : List Request :=
  [.setOverrides ⟨[("hover", .text "none")]⟩, .matchMedia (.text "(min-width: 700px)"),
    .setSize (.ofFloat 900) (.ofFloat 800), .flush none]

/-- The viewport tells its size again, and the same overrides are set. The listener of the first
query is told at last, and the second query holds. -/
theorem outage_is_over :
    let failing := sessionAfter plainOptions outageMoves
    let weathered := sessionAfter plainOptions (outageMoves ++ asking outageRequests)
    let last := sessionAfter plainOptions (outageMoves ++ asking outageRequests ++
      [.begin (.failSize false)] ++
        .begin (.setOverrides ⟨[("hover", .text "none")]⟩) :: [.answer (.ok ())])
    failing.state.IsUnread ∧ IsWeathered outageRequests failing weathered ∧
      (Text.ofString "(min-width: 700px)", 1) ∈ weathered.state.registry.entries ∧
      last.state.AnswersNow "(min-width: 700px)" 1 := by
  intro failing weathered last
  have hunread : failing.state.IsUnread := ⟨.raised "", by decide +kernel⟩
  have hroutine : ∀ request ∈ outageRequests, request.IsRoutine := by
    simp [outageRequests, Request.IsRoutine]
  obtain ⟨hweathered, hrecovers⟩ := recovers_from_outage plainOptions rfl outageMoves
    [.begin (.failSize false)] [.answer (.ok ())] outageRequests ⟨[("hover", .text "none")]⟩
    hunread hroutine
  have hread : (sessionAfter plainOptions (outageMoves ++ asking outageRequests ++
      [.begin (.failSize false)])).state.IsRead :=
    ⟨.ofFloat 900, .ofFloat 800, by decide +kernel⟩
  obtain ⟨hkept, hcurrent⟩ := hrecovers (by simp [outageMoves]) (by simp) hread
    (by decide +kernel) (by simp [Move.Begins]) (by decide +kernel) (by decide +kernel)
    (by decide +kernel)
  have hmade : (Text.ofString "(min-width: 700px)", 1) ∈ weathered.state.registry.entries := by
    decide +kernel
  exact ⟨hunread, hweathered, hmade, hcurrent "(min-width: 700px)" 1 (hkept _ hmade)⟩

/-- A query that nests too deep for the stack is a fault, also while the size cannot be read. -/
theorem nested_query_faults_in_outage :
    ¬ ∀ (options : EngineOptions) (moves : List (Move Request (Except Fault Unit)))
      (request : Request), (sessionAfter options moves).state.IsUnread → request.IsRoutine →
        ∀ fault, (sessionAfter options (moves ++ asking [request])).history.head? ≠
          some (.ended (.error fault)) := by
  intro hall
  have hunread : (sessionAfter plainOptions [.begin (.failSize true)]).state.IsUnread :=
    ⟨.raised "", by decide +kernel⟩
  have hfaults : ∀ media, Query.parseLogged usualRoom media = .error .tooDeep →
      (sessionAfter plainOptions ([.begin (.failSize true)] ++
        asking [.matchMedia (.text media)])).history.head? = some (.ended (.error .tooDeep)) := by
    intro media hread
    have hrefuses : (sessionAfter plainOptions [.begin (.failSize true)]).state.Refuses
        (.text media) .tooDeep := .endless rfl rfl rfl hread
    have hstep := sessionAfter_concat plainOptions [.begin (.failSize true)]
      (.begin (.matchMedia (.text media)))
    rw [Session.step, perform_matchMedia (matchMedia_of_refuses hrefuses)] at hstep
    exact congrArg (·.history.head?) hstep
  exact hall plainOptions _ (.matchMedia (.text (Query.nested usualRoom))) hunread trivial .tooDeep
    (hfaults _ (Query.parseLogged_nested_of_le (Nat.le_refl _)))

end Breakpoint.Engine
