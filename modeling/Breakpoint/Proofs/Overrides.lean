import Breakpoint.Settings

/-!
# What overrides come to

Texts that override features stay what they are when they are handed on as values, and the names of
overrides are distinct wherever they come from.
-/

namespace Breakpoint

namespace Overrides

/-- An override as a value. -/
theorem toValues_insert (overrides : Dict Text) (name text : Text) :
    toValues (overrides.insert name text) = (toValues overrides).insert name (.text text) := by
  have hentries : ∀ entries : List (Text × Text),
      (Dict.setEntry name text entries).map (fun entry => (entry.1, Value.text entry.2)) =
        Dict.setEntry name (.text text) (entries.map fun entry => (entry.1, .text entry.2)) := by
    intro entries
    induction entries with
    | nil => rfl
    | cons entry rest ih =>
      rw [Dict.setEntry, List.map_cons, Dict.setEntry]
      split
      · rfl
      · rw [List.map_cons, ih]
  exact congrArg Dict.mk (hentries overrides.entries)

/-- Overrides that are set on top of others may be turned into values before. -/
theorem toValues_insertAll (overrides : Dict Text) (entries : List (Text × Text)) :
    toValues (overrides.insertAll entries) =
      (toValues overrides).insertAll (toValues ⟨entries⟩).entries := by
  induction entries generalizing overrides with
  | nil => rfl
  | cons entry rest ih =>
    show toValues ((overrides.insert entry.1 entry.2).insertAll rest) = _
    rw [ih, toValues_insert]
    rfl

/-- The text of a value that overrides something. Null overrides nothing. -/
def textOf? : Value → Option Text
  | .null => none
  | value => some value.display

/-- What is left of values of distinct names: those that are not null, as texts. -/
theorem get?_normalise {values : Dict Value} (h : values.names.Nodup) (name : Text) :
    (normalise values).get? name = (values.get? name).bind textOf? := by
  have htexts : normalise values =
      .ofList (values.entries.filterMap fun entry => (textOf? entry.2).map (entry.1, ·)) := by
    rw [normalise]
    congr 2
    funext entry
    cases entry.2 <;> rfl
  rw [htexts, Dict.get?_ofList_filterMap h]

/-- Overrides of distinct names are what is left of their values. -/
theorem normalise_toValues {overrides : Dict Text} (h : overrides.names.Nodup) :
    normalise (toValues overrides) = overrides := by
  rw [normalise, toValues, List.filterMap_map]
  exact (congrArg Dict.ofList List.filterMap_some).trans (Dict.ofList_entries h)

end Overrides

namespace Settings

/-- The names of the overrides in a settings file are distinct. -/
theorem nodup_overridesOf (field : Option Value) : (overridesOf field).names.Nodup := by
  unfold overridesOf
  split
  · exact Dict.nodup_names_ofList _
  · exact List.nodup_nil

/-- The overrides of a settings file have distinct names. -/
theorem nodup_overridesWithin {room : Nat} {field : Option Value} {overrides : Dict Text}
    (h : overridesWithin room field = .ok overrides) : overrides.names.Nodup := by
  rw [overridesWithin.eq_def] at h
  split at h
  · split at h
    · cases h
    · cases h
      exact nodup_overridesOf _
  · cases h
    exact List.nodup_nil

/-- The overrides of settings have distinct names. -/
theorem nodup_ofEntries {room : Nat} {entries : List (Text × Value)} {settings : Settings}
    (h : ofEntries room entries = .ok settings) : settings.overrides.names.Nodup := by
  simp only [ofEntries, bind, Except.bind] at h
  split at h
  · cases h
  split at h
  · cases h
  split at h
  · cases h
  split at h
  · cases h
  · next hoverrides =>
    cases h
    exact nodup_overridesWithin hoverrides

/-- Settings that were loaded have overrides of distinct names. -/
theorem nodup_load {room : Nat} {content : FileContent} {settings : Settings}
    (h : load room content = .ok settings) : settings.overrides.names.Nodup := by
  unfold load at h
  split at h
  · cases h
  · cases h
  · cases h
    exact List.nodup_nil
  · next bytes =>
    cases hdocument : Document.ofBytes room bytes with
    | error fault =>
      rw [hdocument] at h
      cases h
    | ok document =>
      simp only [hdocument, bind, Except.bind] at h
      split at h
      · exact nodup_ofEntries h
      · cases h
        exact List.nodup_nil

end Settings

end Breakpoint
