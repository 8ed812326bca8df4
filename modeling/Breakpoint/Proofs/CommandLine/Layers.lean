import Breakpoint.Proofs.CommandLine.Replay
import Breakpoint.Proofs.Engine.Layers

/-!
# The overrides of a command

A command has overrides from three places: its settings, a file of overrides, and its arguments, of
which the last one for a name counts. The last two are set on top of each other and handed to its
engine, which sets them on top of those of the settings.
-/

namespace Breakpoint

namespace Overrides

/-- The value of an override is its text. -/
theorem get?_toValues (overrides : Dict Text) (name : Text) :
    (toValues overrides).get? name = (overrides.get? name).map .text := by
  obtain ⟨entries⟩ := overrides
  induction entries with
  | nil => rfl
  | cons entry rest ih =>
    obtain ⟨other, text⟩ := entry
    simp only [toValues, Dict.get?, List.map_cons, List.lookup_cons] at ih ⊢
    split
    · rfl
    · exact ih

/-- Overrides have distinct names as values, too. -/
theorem nodup_toValues {overrides : Dict Text} (h : overrides.names.Nodup) :
    (toValues overrides).names.Nodup := by
  have hnames : (toValues overrides).names = overrides.names := List.map_map
  rwa [hnames]

/-- A text is never null, so every name of either layer is overridden. -/
theorem layered?_toValues (lower upper : Dict Text) (name : Text) :
    layered? (toValues lower) (toValues upper) name = (upper.get? name).or (lower.get? name) := by
  rw [layered?, get?_toValues, get?_toValues]
  cases upper.get? name with
  | some text => rfl
  | none => cases lower.get? name <;> rfl

/-- Overrides that were loaded have distinct names. -/
theorem nodup_load {room : Nat} {path : Text} {content : FileContent} {overrides : Dict Text}
    {records : List LogRecord} (h : load room path content = .ok (overrides, records)) :
    overrides.names.Nodup := by
  unfold load at h
  split at h
  · cases h
  · cases h
  · cases h
    exact List.nodup_nil
  · next bytes =>
    cases hdocument : Document.ofBytes room bytes with
    | error fault =>
      rw [hdocument] at h
      cases h
    | ok document =>
      simp only [hdocument, bind, Except.bind] at h
      split at h
      · cases h
        exact List.nodup_nil
      · next entries =>
        rw [normaliseWithin] at h
        cases hfault : fault? room (valuesOf entries) with
        | some fault =>
          rw [hfault] at h
          cases h
        | none =>
          rw [hfault] at h
          cases h
          exact nodup_normalise _
      · cases h
        exact List.nodup_nil

end Overrides

namespace CommandLine

/-- The overrides of a file have distinct names. -/
theorem nodup_fileOverrides {arguments : Arguments} {machine : Machine} {file : Dict Text}
    {records : List LogRecord} (h : fileOverrides arguments machine = .ok (file, records)) :
    file.names.Nodup := by
  rw [fileOverrides] at h
  split at h
  · cases h
    exact List.nodup_nil
  · cases h
  · exact Overrides.nodup_load h

/-- The last argument for a name counts, and else the file. -/
theorem get?_mergeOverrides (file : Dict Text) (pairs : List (Text × Text)) :
    ∃ own, mergeOverrides file (pairs.map some) = .ok own ∧
      (file.names.Nodup → own.names.Nodup) ∧
      ∀ name, own.get? name = (pairs.reverse.lookup name).or (file.get? name) := by
  have hpairs : (pairs.map some).mapM id = some pairs := by
    rw [List.mapM_map]
    exact List.mapM_pure.trans (congrArg some (List.map_id pairs))
  refine ⟨file.insertAll (Dict.ofList pairs).entries, ?_, ?_, ?_⟩
  · rw [mergeOverrides, hpairs]
  · intro hfile
    exact Dict.nodup_names_insertAll hfile _
  · intro name
    have harguments : (Dict.ofList pairs).get? name = pairs.reverse.lookup name := by
      rw [Dict.ofList, Dict.get?_insertAll]
      exact Option.or_none
    rw [Dict.get?_insertAll_entries file (Dict.nodup_names_ofList pairs), harguments]

open Engine (replacements sessionAfter)

/-- The overrides come in layers, each of which counts before the ones below it. An engine starts
with the values of its own on top of those of its settings, where null takes a name away, and after
a replacement that is not refused nothing is left but what the last one says. In the engine of a
command the values of its own are the arguments on top of the file. -/
theorem overrides_keep_layers :
    (∀ (options : EngineOptions) (moves : List (Move Engine.Request (Except Fault Unit))),
      options.settingsOverrides.names.Nodup → options.overrides.names.Nodup →
      (∀ values ∈ replacements options.room moves, values.names.Nodup) →
      ∀ name, (sessionAfter options moves).state.overrides.get? name =
        match (replacements options.room moves).getLast? with
        | none =>
          ((options.overrides.get? name).or (options.settingsOverrides.get? name)).bind
            Overrides.textOf?
        | some values => (values.get? name).bind Overrides.textOf?) ∧
    ∀ (arguments : Arguments) (before machine : Machine) (settings : Settings) (file : Dict Text)
      (records : List LogRecord) (pairs : List (Text × Text)) (first : Extent × Extent)
      (further : List (Option (Extent × Extent))),
      settingsFor arguments before = .ok settings →
      fileOverrides arguments machine = .ok (file, records) →
      arguments.overrides = pairs.map some → arguments.sizes = some first :: further →
      let host := Preferences.detect machine.environment
      ∃ own, (∀ name, own.get? name = (pairs.reverse.lookup name).or (file.get? name)) ∧
        (∀ name, (engineFor settings own host machine.room first).overrides.get? name =
          (own.get? name).or (settings.overrides.get? name)) ∧
        let told := transcript settings own host machine.room first further arguments.queries
        answerQueries arguments machine settings =
          { told with records := records ++ told.records } := by
  refine ⟨fun options moves hlower hupper hmoves name =>
    Engine.get?_overrides_sessionAfter hlower hupper hmoves name, ?_⟩
  intro arguments before machine settings file records pairs first further hsettings hfile hpairs
    hsizes host
  obtain ⟨own, hmerge, hnodup, hown⟩ := get?_mergeOverrides file pairs
  refine ⟨own, hown, ?_, ?_⟩
  · intro name
    have hlower := Overrides.nodup_toValues (nodup_settingsFor hsettings)
    have hupper := Overrides.nodup_toValues (hnodup (nodup_fileOverrides hfile))
    exact (Overrides.get?_normalise_insertAll hlower hupper name).trans
      (Overrides.layered?_toValues settings.overrides own name)
  · simp only [answerQueries, hfile, hpairs, hmerge, hsizes, host]

/-- An engine of its own takes one override of its settings away and adds another. -/
def layeredOptions : EngineOptions :=
  { width := .ofFloat 400
    height := .ofFloat 300
    settingsOverrides := ⟨[("hover", .text "hover"), ("grid", .int 1)]⟩
    overrides := ⟨[("hover", .null), ("update", .text "slow")]⟩ }

/-- A command names one override twice, above a file with another. -/
def layeredCommand : Arguments :=
  { queries := ["(grid)"]
    sizes := [some (.ofFloat 400, .ofFloat 300)]
    overridesFile := some (some "overrides")
    overrides := [some ("grid", "1"), some ("grid", "2")] }

/-- The file `{"a":"b"}`. -/
def layeredFiles : FileTree :=
  { nodes := [(["overrides"], .file ⟨#[123, 34, 97, 34, 58, 34, 98, 34, 125]⟩)] }

/-- Overrides of a new engine, after a replacement, and of a command. -/
theorem overrides_layered_in_turn :
    let replaced : Move Engine.Request (Except Fault Unit) :=
      .begin (.setOverrides ⟨[("hover", .null), ("grid", .int 2)]⟩)
    let built := (sessionAfter layeredOptions []).state.overrides
    let after := (sessionAfter layeredOptions [replaced]).state.overrides
    (built.get? "hover" = none ∧ built.get? "grid" = some "1" ∧ built.get? "update" = some "slow") ∧
    (after.get? "grid" = some "2" ∧ after.get? "update" = none) ∧
    ∃ own : Dict Text, own.get? "grid" = some "2" ∧ own.get? "a" = some "b" ∧
      (∀ name, (engineFor {} own {} usualRoom (.ofFloat 400, .ofFloat 300)).overrides.get? name =
        own.get? name) ∧
      (answerQueries layeredCommand { files := layeredFiles } {}).lines =
        (transcript {} own {} usualRoom (.ofFloat 400, .ofFloat 300) []
          layeredCommand.queries).lines := by
  intro replaced built after
  obtain ⟨hengine, hcommand⟩ := overrides_keep_layers
  have hbuilt := hengine layeredOptions [] (by decide) (by decide) (by simp [replacements])
  have hafter := hengine layeredOptions [replaced] (by decide) (by decide) (by decide)
  have hfile : fileOverrides layeredCommand { files := layeredFiles } =
      .ok (⟨[("a", "b")]⟩, [Overrides.unknownRecord "a"]) := by
    decide +kernel
  obtain ⟨own, hown, hoverrides, hanswer⟩ := hcommand layeredCommand {} { files := layeredFiles } {}
    _ _ [("grid", "1"), ("grid", "2")] (.ofFloat 400, .ofFloat 300) [] rfl hfile rfl rfl
  refine ⟨⟨?_, ?_, ?_⟩, ⟨?_, ?_⟩, own, ?_, ?_, ?_, ?_⟩
  · exact (hbuilt "hover").trans (by decide +kernel)
  · exact (hbuilt "grid").trans (by decide +kernel)
  · exact (hbuilt "update").trans (by decide +kernel)
  · exact (hafter "grid").trans (by decide +kernel)
  · exact (hafter "update").trans (by decide +kernel)
  · exact (hown "grid").trans (by decide +kernel)
  · exact (hown "a").trans (by decide +kernel)
  · intro name
    exact (hoverrides name).trans Option.or_none
  · rw [hanswer]
    rfl

end CommandLine

end Breakpoint
