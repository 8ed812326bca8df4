import Breakpoint.Proofs.Document.Limits
import Breakpoint.Proofs.Text.Bytes
import Breakpoint.Settings

/-!
# What comes of a file of settings or of overrides

A file is refused where its path can name no file, where its bytes are no text, and where its text
comes to an integer of too many digits or to lists and maps too deep inside one another; a file of
settings also where one of its numbers is infinite. In all other cases loading gives a result: what
the map in the file means, or the defaults where the file holds no map.
-/

namespace Breakpoint

/-! ## What a file holds -/

/-- The file is there, and it holds a document of the value. -/
def FileContent.Holds (content : FileContent) (value : Value) : Prop :=
  ∃ bytes text, content = .ok bytes ∧ Text.utf8? text = some bytes ∧ Document.IsDocument text value

/-- The file is refused with this fault, whatever is looked for in it, on a stack with so much
room. -/
inductive FileContent.Refuses (room : Nat) : FileContent → Fault → Prop
  | nullCharacter : Refuses room (.error .nullCharacter) (.storage .nullCharacter)
  | unencodable : Refuses room (.error .unencodable) (.storage .unencodable)
  | undecodable {bytes : ByteArray} (h : ∀ text, Text.utf8? text ≠ some bytes) :
      Refuses room (.ok bytes) .undecodable
  | stopped {bytes : ByteArray} {text : Text} {refusal : Document.Refusal}
      (htext : Text.utf8? text = some bytes) (h : Document.IsStopped room refusal text) :
      Refuses room (.ok bytes) refusal.fault

namespace Document

variable {room : Nat} {bytes : ByteArray} {value : Value} {fault : Fault}

/-- The bytes of a file are refused exactly where they are no text or reading their text stops. -/
theorem ofBytes_eq_error_iff :
    ofBytes room bytes = .error fault ↔ FileContent.Refuses room (.ok bytes) fault := by
  rw [ofBytes]
  constructor
  · intro h
    split at h
    · next hnone =>
      cases h
      exact .undecodable (Text.ofUtf8?_eq_none_iff.1 hnone)
    · next text htext =>
      split at h
      · cases h
      · cases h
      · next hread =>
        cases h
        exact .stopped (Text.ofUtf8?_eq_some_iff.1 htext) (read_eq_refused_iff.1 hread)
  · intro h
    cases h with
    | undecodable hnone => rw [Text.ofUtf8?_eq_none_iff.2 hnone]
    | stopped htext hstopped =>
      rw [Text.ofUtf8?_eq_some_iff.2 htext]
      dsimp only
      rw [read_eq_refused_iff.2 hstopped]

/-- A value is found exactly in the bytes of a document of it that is not refused. -/
theorem ofBytes_eq_some_iff :
    ofBytes room bytes = .ok (some value) ↔
      FileContent.Holds (.ok bytes) value ∧ ∀ fault, ¬ FileContent.Refuses room (.ok bytes) fault := by
  constructor
  · intro h
    refine ⟨?_, ?_⟩
    · rw [ofBytes] at h
      split at h
      · cases h
      · next text htext =>
        split at h
        · next found hread =>
          cases h
          have hdocument := (read_eq_ok_iff_isDocument.1 hread).1
          exact ⟨bytes, text, rfl, Text.ofUtf8?_eq_some_iff.1 htext, hdocument⟩
        · cases h
        · cases h
    · intro fault hrefused
      cases h.symm.trans (ofBytes_eq_error_iff.2 hrefused)
  · rintro ⟨⟨_, text, hbytes, htext, hdocument⟩, haccepted⟩
    cases hbytes
    have hread : ∀ refusal, ¬ IsStopped room refusal text :=
      fun refusal hstopped => haccepted _ (.stopped htext hstopped)
    rw [ofBytes, Text.ofUtf8?_eq_some_iff.2 htext]
    dsimp only
    rw [read_eq_ok_iff_isDocument.2 ⟨hdocument, hread⟩]

/-- A value that was found in a file has a text. -/
theorem textFault?_of_ofBytes (h : ofBytes room bytes = .ok (some value)) :
    value.textFault? room = none := by
  rw [ofBytes] at h
  split at h
  · cases h
  · split at h
    · next hread =>
      cases h
      exact textFault?_of_read hread
    · cases h
    · cases h

end Document

/-! ## What is made of a file -/

namespace FileContent

variable {α : Type} {room : Nat} {content : FileContent} {absent : α}
  {make : Option Value → Except Fault α} {fault : Fault} {value : Value}

/-- What is made of the document in a file, with what there is without a file. -/
def withDocument (room : Nat) (content : FileContent) (absent : α)
    (make : Option Value → Except Fault α) : Except Fault α :=
  match content with
  | .error .nullCharacter => .error (.storage .nullCharacter)
  | .error .unencodable => .error (.storage .unencodable)
  | .error _ => .ok absent
  | .ok bytes => do make (← Document.ofBytes room bytes)

/-- Nothing is made of a file that is refused. -/
theorem withDocument_of_refuses (h : content.Refuses room fault) :
    content.withDocument room absent make = .error fault := by
  cases h with
  | nullCharacter => rfl
  | unencodable => rfl
  | undecodable hnone =>
    rw [withDocument, Document.ofBytes_eq_error_iff.2 (.undecodable hnone)]
    rfl
  | stopped htext hstopped =>
    rw [withDocument, Document.ofBytes_eq_error_iff.2 (.stopped htext hstopped)]
    rfl

/-- Of a file that holds a document and is not refused, what is made is made of this document. -/
theorem withDocument_of_holds (haccepted : ∀ fault, ¬ content.Refuses room fault)
    (h : content.Holds value) :
    content.withDocument room absent make = make (some value) := by
  obtain ⟨bytes, text, rfl, hdocument⟩ := h
  rw [withDocument, Document.ofBytes_eq_some_iff.2 ⟨⟨bytes, text, rfl, hdocument⟩, haccepted⟩]
  rfl

/-- The document of a file that is not refused has a text. -/
theorem textFault?_of_holds (haccepted : ∀ fault, ¬ content.Refuses room fault)
    (h : content.Holds value) : value.textFault? room = none := by
  obtain ⟨bytes, text, rfl, hdocument⟩ := h
  exact Document.textFault?_of_ofBytes
    (Document.ofBytes_eq_some_iff.2 ⟨⟨bytes, text, rfl, hdocument⟩, haccepted⟩)

/-- Of a file that is not refused and holds no map, nothing is made or what is made without a map. -/
theorem withDocument_of_not_holds (haccepted : ∀ fault, ¬ content.Refuses room fault)
    (h : ∀ entries, ¬ content.Holds (.dict entries)) :
    content.withDocument room absent make = .ok absent ∨
      ∃ document, (∀ entries, document ≠ some (.dict entries)) ∧
        content.withDocument room absent make = make document := by
  cases content with
  | error fault =>
    left
    cases fault with
    | nullCharacter => exact absurd .nullCharacter (haccepted _)
    | unencodable => exact absurd .unencodable (haccepted _)
    | _ => rfl
  | ok bytes =>
    right
    cases hdocument : Document.ofBytes room bytes with
    | error fault => exact absurd (Document.ofBytes_eq_error_iff.1 hdocument) (haccepted fault)
    | ok document =>
      refine ⟨document, ?_, ?_⟩
      · rintro entries rfl
        exact h entries (Document.ofBytes_eq_some_iff.1 hdocument).1
      · rw [withDocument, hdocument]
        rfl

end FileContent

/-! ## Settings -/

namespace Settings

/-- The value of a field is an infinite number. -/
def IsInfinite (field : Option Value) : Prop :=
  ∃ x negative, field = some (.float x) ∧ Decimal.partsOf x = .infinite negative

/-- The names of the settings that are numbers. -/
def numberNames : List Text := ["frame_interval_ms", "max_follow_up_sweeps", "log_retention"]

/-- Some setting that is a number is infinite in a map. -/
def HasInfinite (entries : List (Text × Value)) : Prop :=
  ∃ name ∈ numberNames, IsInfinite ((Dict.mk entries).get? name)

/-- Only an infinite number is out of the range of the integers. -/
theorem toInt_eq_outOfRange_iff {value : Value} :
    value.toInt = .error .outOfRange ↔ IsInfinite (some value) := by
  constructor
  · intro h
    rw [Value.toInt.eq_def] at h
    split at h
    · cases h
    · cases h
    · next x =>
      split at h
      · cases h
      · next negative hparts => exact ⟨x, negative, rfl, hparts⟩
      · cases h
    · split at h <;> cases h
    · cases h
    · cases h
    · cases h
  · rintro ⟨x, negative, hvalue, hparts⟩
    cases hvalue
    rw [Value.toInt, hparts]

section Number

variable {fallback least greatest : Int} {field : Option Value} {fault : Fault}

/-- Only an infinite number is a fault of a field. -/
theorem number_eq_error_iff :
    number fallback least greatest field = .error fault ↔ fault = .outOfRange ∧ IsInfinite field := by
  constructor
  · intro h
    rw [number.eq_def] at h
    split at h
    · cases h
    · cases h
    · cases h
    · split at h
      · cases h
      · next hrange =>
        cases h
        exact ⟨rfl, toInt_eq_outOfRange_iff.1 hrange⟩
      · cases h
  · rintro ⟨rfl, x, negative, rfl, hparts⟩
    have hrange : (Value.float x).toInt = .error .outOfRange :=
      toInt_eq_outOfRange_iff.2 ⟨x, negative, rfl, hparts⟩
    simp [number, hrange]

/-- A number that was read lies between its bounds. -/
theorem number_mem {n : Int} (hfallback : least ≤ fallback ∧ fallback ≤ greatest)
    (h : number fallback least greatest field = .ok n) : least ≤ n ∧ n ≤ greatest := by
  rw [number.eq_def] at h
  split at h
  · cases h
    exact hfallback
  · cases h
    exact hfallback
  · cases h
    exact hfallback
  · split at h
    · cases h
      exact clamp_mem (Int.le_trans hfallback.1 hfallback.2) _
    · cases h
    · cases h
      exact hfallback

end Number

section Load

variable {room : Nat} {entries : List (Text × Value)} {settings : Settings} {fault : Fault}
  {content : FileContent}

/-- The overrides in a map whose values have texts are not refused. -/
theorem overridesWithin_of_texts (htexts : Value.entriesFault? room entries = none) (name : Text) :
    overridesWithin room ((Dict.mk entries).get? name) =
      .ok (overridesOf ((Dict.mk entries).get? name)) := by
  rw [overridesWithin.eq_def]
  split
  · next nested hnested =>
    have htext := Value.textFault?_of_get? htexts hnested
    rw [Value.entriesFault?_of_dict htext, hnested]
  · next hmap =>
    rw [overridesOf.eq_def]
    split
    · next nested hnested => exact absurd hnested (hmap nested)
    · rfl

/-- The settings that a map means have the numbers of its fields. -/
theorem numbers_of_ofEntries (h : ofEntries room entries = .ok settings) :
    number 16 1 1000 ((Dict.mk entries).get? "frame_interval_ms") = .ok settings.frameInterval ∧
    number 8 1 64 ((Dict.mk entries).get? "max_follow_up_sweeps") = .ok settings.followUpLimit ∧
    number 5 1 20 ((Dict.mk entries).get? "log_retention") = .ok settings.logRetention := by
  simp only [ofEntries, bind, Except.bind] at h
  split at h
  · cases h
  · next hinterval =>
    split at h
    · cases h
    · next hlimit =>
      split at h
      · cases h
      · next hretention =>
        split at h
        · cases h
        · cases h
          exact ⟨hinterval, hlimit, hretention⟩

/-- A map whose values have texts means settings unless one of its numbers is infinite. -/
theorem ofEntries_eq_error_iff (htexts : Value.entriesFault? room entries = none) :
    ofEntries room entries = .error fault ↔ fault = .outOfRange ∧ HasInfinite entries := by
  have hfault : ∀ {fault : Fault}, ofEntries room entries = .error fault →
      fault = .outOfRange ∧ HasInfinite entries := by
    intro fault h
    have hfield : ∀ {name : Text} {fallback least greatest : Int}, name ∈ numberNames →
        number fallback least greatest ((Dict.mk entries).get? name) = .error fault →
        fault = .outOfRange ∧ HasInfinite entries := by
      intro name fallback least greatest hname hnumber
      obtain ⟨hfault, hinfinite⟩ := number_eq_error_iff.1 hnumber
      exact ⟨hfault, name, hname, hinfinite⟩
    simp only [ofEntries, bind, Except.bind] at h
    split at h
    · next hinterval =>
      cases h
      exact hfield (by simp [numberNames]) hinterval
    · split at h
      · next hlimit =>
        cases h
        exact hfield (by simp [numberNames]) hlimit
      · split at h
        · next hretention =>
          cases h
          exact hfield (by simp [numberNames]) hretention
        · split at h
          · next hrefused =>
            cases (overridesWithin_of_texts htexts _).symm.trans hrefused
          · cases h
  refine ⟨hfault, ?_⟩
  rintro ⟨rfl, name, hname, hinfinite⟩
  cases hresult : ofEntries room entries with
  | error fault => rw [(hfault hresult).1]
  | ok settings =>
    obtain ⟨hinterval, hlimit, hretention⟩ := numbers_of_ofEntries hresult
    have hnone : ∀ {fallback least greatest n : Int},
        number fallback least greatest ((Dict.mk entries).get? name) ≠ .ok n := by
      intro fallback least greatest n hok
      cases hok.symm.trans (number_eq_error_iff.2 ⟨rfl, hinfinite⟩)
    simp only [numberNames, List.mem_cons, List.not_mem_nil, or_false] at hname
    rcases hname with rfl | rfl | rfl
    · exact absurd hinterval hnone
    · exact absurd hlimit hnone
    · exact absurd hretention hnone

/-- The settings that a document means. -/
def ofDocument (room : Nat) : Option Value → Except Fault Settings
  | some (.dict entries) => ofEntries room entries
  | _ => .ok {}

/-- Settings are made of the document of a file. -/
theorem load_eq (room : Nat) (content : FileContent) :
    load room content = content.withDocument room {} (ofDocument room) := by
  cases content with
  | error fault => cases fault <;> rfl
  | ok bytes => rfl

/-- A file that is refused keeps settings from being loaded. -/
theorem load_of_refuses (h : content.Refuses room fault) : load room content = .error fault := by
  rw [load_eq, FileContent.withDocument_of_refuses h]

/-- The settings of a file that holds a map are those that the map means, and its values have
texts. -/
theorem load_of_holds (haccepted : ∀ fault, ¬ content.Refuses room fault)
    (h : content.Holds (.dict entries)) :
    load room content = ofEntries room entries ∧ Value.entriesFault? room entries = none := by
  rw [load_eq, FileContent.withDocument_of_holds haccepted h]
  exact ⟨rfl, Value.entriesFault?_of_dict (FileContent.textFault?_of_holds haccepted h)⟩

/-- A file without a map leaves the settings at their defaults. -/
theorem load_of_not_holds (haccepted : ∀ fault, ¬ content.Refuses room fault)
    (h : ∀ entries, ¬ content.Holds (.dict entries)) : load room content = .ok {} := by
  rw [load_eq]
  rcases FileContent.withDocument_of_not_holds haccepted h with hload | ⟨document, hnone, hload⟩
  · exact hload
  · rw [hload, ofDocument.eq_def]
    split
    · exact absurd rfl (hnone _)
    · rfl

/-- What keeps settings from being loaded. -/
theorem load_eq_error_iff :
    load room content = .error fault ↔
      content.Refuses room fault ∨ fault = .outOfRange ∧ (∀ fault, ¬ content.Refuses room fault) ∧
        ∃ entries, content.Holds (.dict entries) ∧ HasInfinite entries := by
  constructor
  · intro h
    by_cases haccepted : ∀ fault, ¬ content.Refuses room fault
    · right
      by_cases hmap : ∃ entries, content.Holds (.dict entries)
      · obtain ⟨entries, hentries⟩ := hmap
        obtain ⟨hload, htexts⟩ := load_of_holds haccepted hentries
        rw [hload] at h
        obtain ⟨hfault, hinfinite⟩ := (ofEntries_eq_error_iff htexts).1 h
        exact ⟨hfault, haccepted, entries, hentries, hinfinite⟩
      · cases (load_of_not_holds haccepted (not_exists.1 hmap)).symm.trans h
    · left
      obtain ⟨other, hother⟩ := not_forall_not.1 haccepted
      cases (load_of_refuses hother).symm.trans h
      exact hother
  · rintro (hrefused | ⟨rfl, haccepted, entries, hentries, hinfinite⟩)
    · exact load_of_refuses hrefused
    · obtain ⟨hload, htexts⟩ := load_of_holds haccepted hentries
      rw [hload]
      exact (ofEntries_eq_error_iff htexts).2 ⟨rfl, hinfinite⟩

/-- A file whose settings were loaded is not refused. -/
theorem not_refuses_of_load (h : load room content = .ok settings) (fault : Fault) :
    ¬ content.Refuses room fault := by
  intro hrefused
  cases h.symm.trans (load_of_refuses hrefused)

/-- The numbers of settings that were loaded lie between their bounds. -/
theorem bounds_of_load (h : load room content = .ok settings) :
    (1 ≤ settings.frameInterval ∧ settings.frameInterval ≤ 1000) ∧
      (1 ≤ settings.followUpLimit ∧ settings.followUpLimit ≤ 64) ∧
      1 ≤ settings.logRetention ∧ settings.logRetention ≤ 20 := by
  have haccepted := not_refuses_of_load h
  by_cases hmap : ∃ entries, content.Holds (.dict entries)
  · obtain ⟨entries, hentries⟩ := hmap
    rw [(load_of_holds haccepted hentries).1] at h
    obtain ⟨hinterval, hlimit, hretention⟩ := numbers_of_ofEntries h
    exact ⟨number_mem (by decide) hinterval, number_mem (by decide) hlimit,
      number_mem (by decide) hretention⟩
  · cases (load_of_not_holds haccepted (not_exists.1 hmap)).symm.trans h
    decide

/-- Loading settings fails exactly where the file is refused or one of its numbers is infinite. Else
it gives the settings that the map in the file means, or the defaults if it holds no map, and the
numbers lie between their bounds. -/
theorem settings_of_file (room : Nat) (content : FileContent) :
    (∀ fault, load room content = .error fault ↔
      content.Refuses room fault ∨ fault = .outOfRange ∧ (∀ fault, ¬ content.Refuses room fault) ∧
        ∃ entries, content.Holds (.dict entries) ∧ HasInfinite entries) ∧
    ∀ settings, load room content = .ok settings →
      (∀ entries, content.Holds (.dict entries) → ofEntries room entries = .ok settings) ∧
      ((∀ entries, ¬ content.Holds (.dict entries)) → settings = {}) ∧
      (1 ≤ settings.frameInterval ∧ settings.frameInterval ≤ 1000) ∧
      (1 ≤ settings.followUpLimit ∧ settings.followUpLimit ≤ 64) ∧
      1 ≤ settings.logRetention ∧ settings.logRetention ≤ 20 := by
  refine ⟨fun fault => load_eq_error_iff, ?_⟩
  intro settings h
  have haccepted := not_refuses_of_load h
  refine ⟨?_, ?_, bounds_of_load h⟩
  · intro entries hentries
    rw [← h, (load_of_holds haccepted hentries).1]
  · intro hnone
    cases (load_of_not_holds haccepted hnone).symm.trans h
    rfl

/-- Bytes that are no text keep settings from being loaded. -/
theorem undecodable_settings_refused :
    load usualRoom (.ok ⟨#[0xff]⟩) = .error .undecodable := rfl

end Load

end Settings

/-! ## Overrides -/

namespace Overrides

variable {room : Nat} {path : Text} {entries : List (Text × Value)} {overrides : Dict Text}
  {records : List LogRecord} {fault : Fault} {content : FileContent}

/-- The overrides that a document means, and the records of reading them. -/
def ofDocument (room : Nat) (path : Text) :
    Option Value → Except Fault (Dict Text × List LogRecord)
  | none => .ok ({}, [malformedRecord path])
  | some (.dict entries) =>
    match normaliseWithin room (valuesOf entries) with
    | .error fault => .error fault
    | .ok overrides => .ok (overrides, normaliseRecords (valuesOf entries))
  | some _ => .ok ({}, [])

/-- Overrides are made of the document of a file. -/
theorem load_eq (room : Nat) (path : Text) (content : FileContent) :
    load room path content = content.withDocument room ({}, []) (ofDocument room path) := by
  cases content with
  | error fault => cases fault <;> rfl
  | ok bytes =>
    rw [load, FileContent.withDocument]
    congr 1
    funext document
    cases document with
    | none => rfl
    | some value =>
      cases value with
      | dict entries =>
        simp only [ofDocument]
        cases normaliseWithin room (valuesOf entries) <;> rfl
      | _ => rfl

/-- A file that is refused keeps overrides from being loaded. -/
theorem load_of_refuses (h : content.Refuses room fault) : load room path content = .error fault := by
  rw [load_eq, FileContent.withDocument_of_refuses h]

/-- The map under the name for overrides holds their values. -/
theorem valuesOf_nested {nested : List (Text × Value)}
    (h : (Dict.mk entries).get? "overrides" = some (.dict nested)) : valuesOf entries = ⟨nested⟩ := by
  rw [valuesOf, h]

/-- Without such a map, the whole map holds the values. -/
theorem valuesOf_whole (h : ∀ nested, (Dict.mk entries).get? "overrides" ≠ some (.dict nested)) :
    valuesOf entries = ⟨entries⟩ := by
  rw [valuesOf]
  split
  · next nested heq => exact absurd heq (h nested)
  · rfl

/-- The values of overrides have texts if those of the document do. -/
theorem fault?_valuesOf (h : Value.entriesFault? room entries = none) :
    fault? room (valuesOf entries) = none := by
  by_cases hmap : ∃ nested, (Dict.mk entries).get? "overrides" = some (.dict nested)
  · obtain ⟨nested, hnested⟩ := hmap
    rw [valuesOf_nested hnested]
    exact Value.entriesFault?_of_dict (Value.textFault?_of_get? h hnested)
  · rw [valuesOf_whole (not_exists.1 hmap)]
    exact h

/-- The overrides of a file that holds a map are those that the map means. -/
theorem load_of_holds (haccepted : ∀ fault, ¬ content.Refuses room fault)
    (h : content.Holds (.dict entries)) :
    load room path content =
      .ok (normalise (valuesOf entries), normaliseRecords (valuesOf entries)) := by
  have htext := Value.entriesFault?_of_dict (FileContent.textFault?_of_holds haccepted h)
  rw [load_eq, FileContent.withDocument_of_holds haccepted h, ofDocument, normaliseWithin,
    fault?_valuesOf htext]

/-- A file without a map has no overrides. -/
theorem load_of_not_holds (haccepted : ∀ fault, ¬ content.Refuses room fault)
    (h : ∀ entries, ¬ content.Holds (.dict entries)) :
    ∃ records, load room path content = .ok ({}, records) := by
  rw [load_eq]
  rcases FileContent.withDocument_of_not_holds haccepted h with hload | ⟨document, hnone, hload⟩
  · exact ⟨[], hload⟩
  · rw [hload, ofDocument.eq_def]
    split
    · exact ⟨_, rfl⟩
    · exact absurd rfl (hnone _)
    · exact ⟨_, rfl⟩

/-- What keeps overrides from being loaded. -/
theorem load_eq_error_iff : load room path content = .error fault ↔ content.Refuses room fault := by
  refine ⟨?_, load_of_refuses⟩
  intro h
  by_cases haccepted : ∀ fault, ¬ content.Refuses room fault
  · by_cases hmap : ∃ entries, content.Holds (.dict entries)
    · obtain ⟨entries, hentries⟩ := hmap
      cases (load_of_holds haccepted hentries).symm.trans h
    · obtain ⟨records, hload⟩ := load_of_not_holds haccepted (not_exists.1 hmap)
      cases hload.symm.trans h
  · obtain ⟨other, hother⟩ := not_forall_not.1 haccepted
    cases (load_of_refuses hother).symm.trans h
    exact hother

/-- Loading overrides fails exactly where the file is refused. Else it gives what the map under the
name for overrides means, or the whole map of the file if there is none under this name, and nothing
if the file holds no map. -/
theorem overrides_of_file (room : Nat) (path : Text) (content : FileContent) :
    (∀ fault, load room path content = .error fault ↔ content.Refuses room fault) ∧
    ∀ overrides records, load room path content = .ok (overrides, records) →
      (∀ entries, content.Holds (.dict entries) →
        (∀ nested, (Dict.mk entries).get? "overrides" = some (.dict nested) →
          overrides = normalise ⟨nested⟩) ∧
        ((∀ nested, (Dict.mk entries).get? "overrides" ≠ some (.dict nested)) →
          overrides = normalise ⟨entries⟩)) ∧
      ((∀ entries, ¬ content.Holds (.dict entries)) → overrides = {}) := by
  refine ⟨fun fault => load_eq_error_iff, ?_⟩
  intro overrides records h
  have haccepted : ∀ fault, ¬ content.Refuses room fault := by
    intro fault hrefused
    cases h.symm.trans (load_of_refuses hrefused)
  refine ⟨?_, ?_⟩
  · intro entries hentries
    cases (load_of_holds haccepted hentries).symm.trans h
    refine ⟨?_, ?_⟩
    · intro nested hnested
      rw [valuesOf_nested hnested]
    · intro hwhole
      rw [valuesOf_whole hwhole]
  · intro hnone
    obtain ⟨others, hload⟩ := load_of_not_holds haccepted hnone
    cases hload.symm.trans h
    rfl

/-- Bytes that are no text keep overrides from being loaded. -/
theorem undecodable_overrides_refused :
    load usualRoom "overrides.json" (.ok ⟨#[0xff]⟩) = .error .undecodable := rfl

end Overrides

end Breakpoint
