import Breakpoint.Text

/-!
# Maps from names in insertion order

A map from names to values that remembers the order in which its names came in. Giving a name
a new value keeps its place.
-/

namespace Breakpoint

/-- A map from names, first name first. -/
structure Dict (α : Type) where
  entries : List (Text × α) := []
  deriving DecidableEq

namespace Dict

variable {α β : Type}

/-- The entries with one name set: in its place if it is there, at the end if it is new. -/
def setEntry (name : Text) (value : α) : List (Text × α) → List (Text × α)
  | [] => [(name, value)]
  | (other, old) :: rest =>
    if other = name then (name, value) :: rest else (other, old) :: setEntry name value rest

/-- The map with one name set. -/
def insert (map : Dict α) (name : Text) (value : α) : Dict α :=
  ⟨setEntry name value map.entries⟩

/-- The value of a name. -/
def get? (map : Dict α) (name : Text) : Option α := map.entries.lookup name

/-- The names in order. -/
def names (map : Dict α) : List Text := map.entries.map (·.1)

/-- The map with the entries of a list set one after the other. -/
def insertAll (map : Dict α) (entries : List (Text × α)) : Dict α :=
  entries.foldl (fun map entry => map.insert entry.1 entry.2) map

/-- The map of a list of entries; of several values of one name the last counts. -/
def ofList (entries : List (Text × α)) : Dict α := insertAll {} entries

/-- The entries by name, in the order of code points. -/
def sorted (map : Dict α) : List (Text × α) :=
  map.entries.mergeSort fun a b => Text.le a.1 b.1

/-- An entry that is set is found under its name, and all others as before. -/
theorem lookup_setEntry (name other : Text) (value : α) (entries : List (Text × α)) :
    (setEntry name value entries).lookup other =
      if other = name then some value else entries.lookup other := by
  induction entries with
  | nil => by_cases h : other = name <;> simp [setEntry, List.lookup_cons, h, beq_false_of_ne]
  | cons entry rest ih =>
    obtain ⟨first, old⟩ := entry
    rw [setEntry]
    split
    · next here =>
      subst here
      by_cases h : other = first <;> simp [List.lookup_cons, h, beq_false_of_ne]
    · next away =>
      by_cases h : other = first
      · subst h; simp [away]
      · simp [List.lookup_cons, ih, beq_false_of_ne h]

/-- The value of a name stands in an entry. -/
theorem mem_of_get? {map : Dict α} {name : Text} {value : α} (h : map.get? name = some value) :
    (name, value) ∈ map.entries := by
  obtain ⟨before, after, hentries, -⟩ := List.lookup_eq_some_iff.1 h
  rw [hentries]
  exact List.mem_append_right _ List.mem_cons_self

/-- A name has no value if it does not stand in the map. -/
theorem get?_eq_none_iff {map : Dict α} {name : Text} : map.get? name = none ↔ name ∉ map.names := by
  rw [get?, List.lookup_eq_none_iff, names, List.mem_map]
  constructor
  · rintro h ⟨entry, hentry, rfl⟩
    exact absurd rfl (bne_iff_ne.1 (h entry hentry))
  · intro h entry hentry
    exact bne_iff_ne.2 fun hsame => h ⟨entry, hentry, hsame.symm⟩

/-- Setting an entry brings in no other. -/
theorem mem_setEntry {name : Text} {value : α} {entries : List (Text × α)} {entry : Text × α}
    (h : entry ∈ setEntry name value entries) : entry = (name, value) ∨ entry ∈ entries := by
  induction entries with
  | nil => exact .inl (List.mem_singleton.1 h)
  | cons first rest ih =>
    rw [setEntry] at h
    split at h
    · rcases List.mem_cons.1 h with h | h
      · exact .inl h
      · exact .inr (List.mem_cons_of_mem _ h)
    · rcases List.mem_cons.1 h with h | h
      · exact .inr (h ▸ List.mem_cons_self)
      · exact (ih h).imp_right (List.mem_cons_of_mem _)

/-- An entry of a map in which a name was set is the one that was set, or was there before. -/
theorem mem_insert {map : Dict α} {name : Text} {value : α} {entry : Text × α}
    (h : entry ∈ (map.insert name value).entries) :
    entry = (name, value) ∨ entry ∈ map.entries :=
  mem_setEntry h

/-- An entry of a map in which several were set is one of them, or was there before. -/
theorem mem_insertAll {map : Dict α} {entries : List (Text × α)} {entry : Text × α}
    (h : entry ∈ (map.insertAll entries).entries) : entry ∈ entries ∨ entry ∈ map.entries := by
  induction entries generalizing map with
  | nil => exact .inr h
  | cons first rest ih =>
    rcases ih h with hrest | hinsert
    · exact .inl (List.mem_cons_of_mem _ hrest)
    · rcases mem_insert hinsert with rfl | hbefore
      · exact .inl List.mem_cons_self
      · exact .inr hbefore

/-- The entries of a map made of a list come from the list. -/
theorem mem_ofList {entries : List (Text × α)} {entry : Text × α}
    (h : entry ∈ (ofList entries).entries) : entry ∈ entries :=
  (mem_insertAll h).resolve_right List.not_mem_nil

/-- A name that was set has its value, and the other names keep theirs. -/
theorem get?_insert (map : Dict α) (name other : Text) (value : α) :
    (map.insert name value).get? other = if other = name then some value else map.get? other :=
  lookup_setEntry name other value map.entries

/-- Of the values that are set for a name the last counts, and the others keep theirs. -/
theorem get?_insertAll (map : Dict α) (entries : List (Text × α)) (name : Text) :
    (map.insertAll entries).get? name = (entries.reverse.lookup name).or (map.get? name) := by
  induction entries generalizing map with
  | nil => rfl
  | cons entry rest ih =>
    obtain ⟨other, value⟩ := entry
    have hinsert : map.insertAll ((other, value) :: rest) =
        (map.insert other value).insertAll rest := rfl
    rw [hinsert, ih, get?_insert, List.reverse_cons, List.lookup_append, Option.or_assoc]
    by_cases h : name = other
    · simp [h]
    · simp [List.lookup_cons, h, beq_false_of_ne]

/-- A name that is set is the last one, unless it was there. -/
theorem names_setEntry (name : Text) (value : α) (entries : List (Text × α)) :
    (setEntry name value entries).map (·.1) =
      if name ∈ entries.map (·.1) then entries.map (·.1) else entries.map (·.1) ++ [name] := by
  induction entries with
  | nil => simp [setEntry]
  | cons entry rest ih =>
    obtain ⟨first, old⟩ := entry
    rw [setEntry]
    split
    · next here => simp [here]
    · next away =>
      simp only [List.map_cons, ih, List.mem_cons, Ne.symm away, false_or]
      split <;> simp

/-- Setting a name keeps the places of the names, and a new name comes last. -/
theorem names_insert (map : Dict α) (name : Text) (value : α) :
    (map.insert name value).names =
      if name ∈ map.names then map.names else map.names ++ [name] :=
  names_setEntry name value map.entries

/-- An entry under a new name comes last. -/
theorem setEntry_of_lookup_none {name : Text} {entries : List (Text × α)}
    (h : entries.lookup name = none) (value : α) :
    setEntry name value entries = entries ++ [(name, value)] := by
  induction entries with
  | nil => rfl
  | cons entry rest ih =>
    obtain ⟨first, old⟩ := entry
    have haway : first ≠ name := by
      rintro rfl
      simp at h
    rw [List.lookup_cons, beq_false_of_ne (Ne.symm haway)] at h
    rw [setEntry, if_neg haway, ih h, List.cons_append]

/-- The entry of a new name comes last. -/
theorem entries_insert {map : Dict α} {name : Text} (h : map.get? name = none) (value : α) :
    (map.insert name value).entries = map.entries ++ [(name, value)] :=
  setEntry_of_lookup_none h value

/-- Names stay distinct when one is set. -/
theorem nodup_names_insert {map : Dict α} (h : map.names.Nodup) (name : Text) (value : α) :
    (map.insert name value).names.Nodup := by
  rw [names_insert]
  split
  · exact h
  · next away =>
    rw [List.nodup_append]
    exact ⟨h, by simp, fun a ha b hb => by rintro rfl; simp_all⟩

/-- Names stay distinct when several are set. -/
theorem nodup_names_insertAll {map : Dict α} (h : map.names.Nodup) (entries : List (Text × α)) :
    (map.insertAll entries).names.Nodup := by
  induction entries generalizing map with
  | nil => exact h
  | cons entry rest ih => exact ih (nodup_names_insert h entry.1 entry.2)

/-- The names of a map made of a list are distinct. -/
theorem nodup_names_ofList (entries : List (Text × α)) : (ofList entries).names.Nodup := by
  have hnone : ({} : Dict α).names.Nodup := List.nodup_nil
  exact nodup_names_insertAll hnone entries

/-- Entries of new and distinct names come last, in order. -/
theorem insertAll_of_nodup {map : Dict α} {entries : List (Text × α)}
    (h : (map.names ++ entries.map (·.1)).Nodup) : map.insertAll entries = ⟨map.entries ++ entries⟩ := by
  induction entries generalizing map with
  | nil => rw [List.append_nil, insertAll, List.foldl_nil]
  | cons entry rest ih =>
    obtain ⟨name, value⟩ := entry
    rw [List.map_cons, List.append_cons] at h
    have hnew : name ∉ map.names := by
      intro hname
      have hnodup := (List.nodup_append.1 h).1
      exact (List.nodup_append.1 hnodup).2.2 name hname name List.mem_cons_self rfl
    have hinsert : map.insert name value = ⟨map.entries ++ [(name, value)]⟩ := by
      rw [← entries_insert (get?_eq_none_iff.2 hnew)]
    have hnames : (map.insert name value).names = map.names ++ [name] := by
      rw [names_insert, if_neg hnew]
    rw [insertAll, List.foldl_cons, ← insertAll, ih (hnames ▸ h), hinsert, ← List.append_cons]

/-- A map is made of its own entries. -/
theorem ofList_entries {map : Dict α} (h : map.names.Nodup) : ofList map.entries = map := by
  have hnames : (({} : Dict α).names ++ map.entries.map (·.1)).Nodup := h
  rw [ofList, insertAll_of_nodup hnames]
  rfl

/-- Of two maps that are set on top of each other the upper one counts. -/
theorem get?_insertAll_entries (map : Dict α) {upper : Dict α} (h : upper.names.Nodup)
    (name : Text) :
    (map.insertAll upper.entries).get? name = (upper.get? name).or (map.get? name) := by
  have hupper := get?_insertAll {} upper.entries name
  rw [← ofList, ofList_entries h] at hupper
  rw [get?_insertAll, hupper]
  exact congrArg (·.or (map.get? name)) Option.or_none.symm

/-- The map of the entries whose values are kept has what is kept of each value. -/
theorem get?_ofList_filterMap {map : Dict α} (h : map.names.Nodup) (keep : α → Option β)
    (name : Text) :
    (ofList (map.entries.filterMap fun entry => (keep entry.2).map (entry.1, ·))).get? name =
      (map.get? name).bind keep := by
  have hlookup : ∀ entries : List (Text × α), (entries.map (·.1)).Nodup →
      (entries.filterMap fun entry => (keep entry.2).map (entry.1, ·)).reverse.lookup name =
        (entries.lookup name).bind keep := by
    intro entries hnames
    induction entries with
    | nil => rfl
    | cons entry rest ih =>
      obtain ⟨other, value⟩ := entry
      obtain ⟨hother, hdistinct⟩ := List.nodup_cons.1 hnames
      have hrest := ih hdistinct
      have hnone : (Dict.mk rest).get? other = none := get?_eq_none_iff.2 hother
      rw [get?] at hnone
      by_cases hsame : name = other
      · subst hsame
        rw [hnone, Option.bind_none] at hrest
        cases hkept : keep value <;> simp [List.lookup_append, hkept, hrest]
      · rw [List.lookup_cons, beq_false_of_ne hsame, ← hrest]
        cases hkept : keep value <;>
          simp [List.lookup_append, List.lookup_cons, hkept, beq_false_of_ne hsame]
  rw [ofList, get?_insertAll, hlookup map.entries h]
  exact Option.or_none

end Dict

end Breakpoint
