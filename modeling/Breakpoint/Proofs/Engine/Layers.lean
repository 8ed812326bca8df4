import Breakpoint.Proofs.Engine.Registry
import Breakpoint.Proofs.Overrides

/-!
# The overrides at every moment

An engine starts with two layers of overrides, its own on top of those of its settings, of which the
upper one may also take a name away. From then on only a request that replaces the overrides touches
them, and it replaces all unless it is refused: no sweep, no listener and no other request leaves a
trace in them.
-/

namespace Breakpoint

namespace Overrides

/-- What two layers of values say of a name: the upper layer, if it has the name, and else the lower
one. A name whose value is null there is not overridden. -/
def layered? (lower upper : Dict Value) (name : Text) : Option Text :=
  ((upper.get? name).or (lower.get? name)).bind textOf?

/-- The overrides that are left of one layer set on top of another. -/
theorem get?_normalise_insertAll {lower upper : Dict Value} (hlower : lower.names.Nodup)
    (hupper : upper.names.Nodup) (name : Text) :
    (normalise (lower.insertAll upper.entries)).get? name = layered? lower upper name := by
  rw [get?_normalise (Dict.nodup_names_insertAll hlower upper.entries),
    Dict.get?_insertAll_entries lower hupper, layered?]

/-- The names of normal overrides are distinct. -/
theorem nodup_normalise (values : Dict Value) : (normalise values).names.Nodup :=
  Dict.nodup_names_ofList _

end Overrides

namespace Engine

/-- The room on the stack after a move, given that before it. -/
def roomAfter (room : Nat) : Move Request (Except Fault Unit) → Nat
  | .begin (.setRoom more) => more
  | _ => room

/-- The values that a move of the host puts in the place of all overrides, if it does and they are not
refused. -/
def replacement? (room : Nat) : Move Request (Except Fault Unit) → Option (Dict Value)
  | .begin (.setOverrides values) =>
    match Overrides.fault? room values with
    | some _ => none
    | none => some values
  | _ => none

/-- The values that some moves put in the place of all overrides, one after the other. -/
def replacements : Nat → List (Move Request (Except Fault Unit)) → List (Dict Value)
  | _, [] => []
  | room, move :: moves => (replacement? room move).toList ++ replacements (roomAfter room move) moves

/-- The overrides after a move, given those before it. -/
def overridesAfter (room : Nat) (overrides : Dict Text) (move : Move Request (Except Fault Unit)) :
    Dict Text :=
  ((replacement? room move).map Overrides.normalise).getD overrides

variable {engine after : Engine} {move : Move Request (Except Fault Unit)}

/-! ## What a move does to the overrides -/

/-- The later engine has the same overrides and the same room on the stack. -/
structure Steady (before after : Engine) : Prop where
  overrides : after.overrides = before.overrides
  room : after.room = before.room

/-- Two steady changes in turn are one. -/
theorem Steady.trans {middle : Engine} (hfirst : Steady engine middle) (hsecond : Steady middle after) :
    Steady engine after :=
  ⟨hsecond.overrides.trans hfirst.overrides, hsecond.room.trans hfirst.room⟩

/-- Listening to a handle is steady. -/
theorem steady_listen (engine : Engine) (number : Nat) (listener : Option Listener) :
    Steady engine (engine.listen number listener) := by
  cases listener <;> exact ⟨rfl, rfl⟩

/-- No longer listening for a type of events is steady. -/
theorem steady_unlistenTo (engine : Engine) (number : Nat) (type : Text)
    (listener : Option Listener) : Steady engine (engine.unlistenTo number type listener) := by
  rw [unlistenTo]
  split
  · cases listener <;> exact ⟨rfl, rfl⟩
  · exact ⟨rfl, rfl⟩

/-- Destruction is steady. -/
theorem steady_tearDown (engine : Engine) : Steady engine engine.tearDown := by
  have hstopped : Steady engine engine.stopObserving.cancelFrame.detachAll := by
    rw [stopObserving]
    split
    · dsimp only
      split <;> exact ⟨rfl, rfl⟩
    · exact ⟨rfl, rfl⟩
  refine hstopped.trans ?_
  show Steady _ (markDestroyed _)
  rw [markDestroyed]
  split <;> exact ⟨rfl, rfl⟩

/-- A request that calls no one leaves the overrides alone, and the room unless it sets it. -/
theorem steady_change {request : Request} {change : Engine → Engine}
    (h : request.change? = some change) (engine : Engine) :
    (change engine).overrides = engine.overrides ∧
      (change engine).room = roomAfter engine.room (.begin request) := by
  have hsteady : Steady engine (change engine) →
      roomAfter engine.room (.begin request) = engine.room →
        (change engine).overrides = engine.overrides ∧
          (change engine).room = roomAfter engine.room (.begin request) :=
    fun hsteady hroom => ⟨hsteady.overrides, hsteady.room.trans hroom.symm⟩
  cases request <;> cases h
  case addListener number listener => exact hsteady (steady_listen engine _ _) rfl
  case removeListener number listener => exact hsteady (by cases listener <;> exact ⟨rfl, rfl⟩) rfl
  case addEventListener number type listener =>
    refine hsteady ?_ rfl
    dsimp only
    rw [listenTo]
    split
    · exact steady_listen engine _ _
    · exact ⟨rfl, rfl⟩
  case removeEventListener number type listener => exact hsteady (steady_unlistenTo engine _ _ _) rfl
  case unbind binding =>
    refine hsteady ?_ rfl
    dsimp only
    rw [unbind]
    split
    · exact steady_unlistenTo engine _ _ _
    · exact ⟨rfl, rfl⟩
  case setSize width height =>
    obtain ⟨pacer, hresize, -⟩ := engine.resize_eq width height
    refine hsteady ?_ rfl
    dsimp only
    rw [hresize]
    exact ⟨rfl, rfl⟩
  case destroy => exact hsteady (steady_tearDown engine) rfl
  all_goals exact ⟨rfl, rfl⟩

/-- Asking for a query leaves the overrides alone. -/
theorem steady_asks {query : Value} {outcome : Except Fault Nat}
    (h : matchMedia query engine = .done outcome after) : Steady engine after := by
  have hfound : ∀ {tree : Option Query} {found : Engine}, Finds query.display engine tree found →
      Steady engine found := fun hfinds => by
    rw [hfinds.same]
    exact ⟨rfl, rfl⟩
  cases asks_of_done h with
  | refused hrefused => exact ⟨rfl, rfl⟩
  | known hknown => exact ⟨rfl, rfl⟩
  | fails hnew hfinds hlevel => exact (hfound hfinds).trans ⟨rfl, rfl⟩
  | makes hnew hfinds hlevel hfirst => exact (hfound hfinds).trans ⟨rfl, rfl⟩

/-- A sweep is steady between two calls. -/
theorem Stage.Reaches.steady {stage next : Stage} (h : stage.Reaches engine next after) :
    Steady engine after := by
  induction h with
  | refl stage engine => exact ⟨rfl, rfl⟩
  | step hstep hrest ih =>
    refine Steady.trans ?_ ih
    cases hstep <;> exact ⟨rfl, rfl⟩

/-- A sweep leaves the overrides alone. -/
theorem Arrives.steady {outset : Outset} {event : Event} {now : List Suspension}
    (h : Arrives outset engine event now after) : Steady engine after := by
  cases h with
  | rests => exact ⟨rfl, rfl⟩
  | ends hreaches => exact hreaches.steady.trans ⟨rfl, rfl⟩
  | calls hreaches hcalls => exact hreaches.steady.trans ⟨rfl, rfl⟩

/-- A move replaces the overrides or leaves them alone, and sets the room or leaves it. -/
structure Layers (move : Move Request (Except Fault Unit)) (before after : Engine) : Prop where
  overrides : after.overrides = overridesAfter before.room before.overrides move
  room : after.room = roomAfter before.room move

/-- What a move makes of the overrides stays through a steady change. -/
theorem Layers.steady {middle : Engine} (h : Layers move engine middle)
    (hsteady : Steady middle after) : Layers move engine after :=
  ⟨hsteady.overrides.trans h.overrides, hsteady.room.trans h.room⟩

/-- A request for a sweep has replaced the overrides if it is one to do so. -/
theorem layers_prompts {request : Request} {reason : SweepReason} {answer : Answer}
    (h : Prompts request engine reason answer after) : Layers (.begin request) engine after := by
  cases h with
  | overrides haccepted =>
    refine ⟨?_, rfl⟩
    rw [overridesAfter, replacement?, haccepted]
    rfl
  | frame hpending hleft => exact ⟨rfl, rfl⟩

/-- What a move does before the host has control again or a sweep goes on. -/
theorem HostStep.layers {waiting : List Suspension} {outset : Outset}
    (h : HostStep move waiting engine outset after) : Layers move engine after := by
  cases h with
  | @changes request change waiting engine hchange =>
    obtain ⟨hoverrides, hroom⟩ := steady_change hchange engine
    refine ⟨?_, hroom⟩
    rw [hoverrides]
    cases request <;> first | rfl | cases hchange
  | asks hasks => exact ⟨(steady_asks hasks).overrides, (steady_asks hasks).room⟩
  | binds hasks => exact ⟨(steady_asks hasks).overrides, (steady_asks hasks).room⟩
  | refuses hasks hlevel => exact ⟨(steady_asks hasks).overrides, (steady_asks hasks).room⟩
  | declines hfault =>
    refine ⟨?_, rfl⟩
    rw [overridesAfter, replacement?, hfault]
    rfl
  | idles => exact ⟨rfl, rfl⟩
  | joinsSweep hprompts hsweeping => exact (layers_prompts hprompts).steady ⟨rfl, rfl⟩
  | beginsSweep hprompts hfree => exact (layers_prompts hprompts).steady ⟨rfl, rfl⟩
  | @hears turn answer reply waiting engine => cases reply <;> exact ⟨rfl, rfl⟩
  | joins =>
    exact ⟨(steady_listen engine _ _).overrides, (steady_listen engine _ _).room⟩
  | drops => exact ⟨rfl, rfl⟩
  | leaves => exact ⟨rfl, rfl⟩

/-! ## Sessions -/

/-- What a move of a session does. -/
theorem layers_sessionAfter (options : EngineOptions)
    (moves : List (Move Request (Except Fault Unit))) (move : Move Request (Except Fault Unit)) :
    Layers move (sessionAfter options moves).state
      (sessionAfter options (moves ++ [move])).state := by
  obtain ⟨waiting, hstands⟩ := stands_sessionAfter options moves
  rw [sessionAfter_concat]
  rcases hstands.step move with ⟨-, ⟨reply, rfl⟩, hsame⟩ | ⟨event, now, hleads, -, -⟩
  · rw [hsame]
    exact ⟨rfl, rfl⟩
  · obtain ⟨outset, middle, hhost, harrives⟩ := hleads
    exact hhost.layers.steady harrives.steady

/-- The room at every moment of a session is what its moves have made of the first one. -/
theorem room_sessionAfter (options : EngineOptions)
    (moves : List (Move Request (Except Fault Unit))) :
    (sessionAfter options moves).state.room = moves.foldl roomAfter options.room := by
  induction moves using List.reverseRecOn with
  | nil => rfl
  | append_singleton moves move ih =>
    rw [List.foldl_concat, ← ih]
    exact (layers_sessionAfter options moves move).room

/-- A further move may replace the overrides in the room that is left by those before it. -/
theorem replacements_concat (room : Nat) (moves : List (Move Request (Except Fault Unit)))
    (move : Move Request (Except Fault Unit)) :
    replacements room (moves ++ [move]) =
      replacements room moves ++ (replacement? (moves.foldl roomAfter room) move).toList := by
  induction moves generalizing room with
  | nil => simp [replacements]
  | cons first moves ih =>
    rw [List.cons_append, replacements, ih, replacements, List.append_assoc]
    rfl

/-- Of several replacements only the last is left. -/
theorem overrides_sessionAfter (options : EngineOptions)
    (moves : List (Move Request (Except Fault Unit))) :
    (sessionAfter options moves).state.overrides =
      ((replacements options.room moves).getLast?.map Overrides.normalise).getD
        (create options).overrides := by
  induction moves using List.reverseRecOn with
  | nil => rfl
  | append_singleton moves move ih =>
    rw [(layers_sessionAfter options moves move).overrides, room_sessionAfter, ih, overridesAfter,
      replacements_concat]
    cases hmove : replacement? (moves.foldl roomAfter options.room) move with
    | none => simp
    | some values => simp

/-- At every moment of a session an override is what the last replacement says of its name, or what
the two first layers say if there was none. -/
theorem get?_overrides_sessionAfter {options : EngineOptions}
    {moves : List (Move Request (Except Fault Unit))}
    (hlower : options.settingsOverrides.names.Nodup) (hupper : options.overrides.names.Nodup)
    (hmoves : ∀ values ∈ replacements options.room moves, values.names.Nodup) (name : Text) :
    (sessionAfter options moves).state.overrides.get? name =
      match (replacements options.room moves).getLast? with
      | none => Overrides.layered? options.settingsOverrides options.overrides name
      | some values => (values.get? name).bind Overrides.textOf? := by
  rw [overrides_sessionAfter]
  cases hlast : (replacements options.room moves).getLast? with
  | none => exact Overrides.get?_normalise_insertAll hlower hupper name
  | some values => exact Overrides.get?_normalise (hmoves values (List.mem_of_getLast? hlast)) name

end Engine

end Breakpoint
