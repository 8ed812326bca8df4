import Breakpoint.Proofs.Query.Prefixes

/-!
# Readings and their parts

A text is read by its parts, and each part stands in the text and is shorter than it. So a reading
with room for more readings than the text has code points never runs out of it, and a reading that
does not run out of room gives the same whatever the room: `parse`, which reads the parts of a text
the way it reads a text.
-/

namespace Breakpoint.Query

open Breakpoint.Text

variable {text : Text}

/-- Taking a media type off makes no text longer. -/
theorem length_dropMediaType_le (text : Text) : (dropMediaType text).length ≤ text.length := by
  obtain ⟨lead, htext, -⟩ := exists_dropMediaType text
  have hlength := congrArg List.length htext
  rw [List.length_append] at hlength
  omega

/-- The text that is worked on is no longer than the whole. -/
theorem length_working_le (text : Text) : (dropMediaType (trim text)).length ≤ text.length :=
  (length_dropMediaType_le _).trans (length_trim_le text)

/-- A segment is no longer than the text, and only the text itself is as long. -/
theorem length_of_mem_splitFrom {needle : Text} {width : Nat} {depth : Int} {skip : Nat}
    {current shadow part : Text} (h : part ∈ splitFrom needle width depth skip current shadow text) :
    part.length < current.length + text.length ∨
      splitFrom needle width depth skip current shadow text = [current.reverse ++ text] := by
  have hkept : ∀ c (current rest : Text),
      (c :: current).length + rest.length = current.length + (c :: rest).length := by
    intro c current rest
    simp only [List.length_cons]
    omega
  -- Where nothing is added to the segment, all segments are shorter than the text.
  have hleft : ∀ {c : CodePoint} {current rest : Text} {parts : List Text}, part ∈ parts →
      part.length < current.length + rest.length ∨ parts = [current.reverse ++ rest] →
        part.length < current.length + (c :: rest).length := by
    rintro c current rest parts hpart (hshorter | rfl)
    · rw [List.length_cons]
      omega
    · rw [List.mem_singleton.1 hpart, List.length_append, List.length_reverse, List.length_cons]
      omega
  fun_induction splitFrom needle width depth skip current shadow text with
  | case1 => cases h
  | case2 => exact .inr (by rw [List.append_nil])
  | case3 depth current shadow c rest skip ih => exact .inl (hleft h (ih h))
  | case4 depth current shadow rest ih =>
    rw [hkept, List.reverse_cons, ← List.append_cons] at ih
    exact ih h
  | case5 depth current shadow rest hopen ih =>
    rw [hkept, List.reverse_cons, ← List.append_cons] at ih
    exact ih h
  | case6 depth current shadow c rest hopen hclose hcut ih =>
    rcases List.mem_cons.1 h with rfl | hother
    · left
      rw [List.length_reverse, List.length_cons]
      omega
    · have hshorter := hleft (c := c) hother (ih hother)
      rw [List.length_nil] at hshorter
      omega
  | case7 depth current shadow c rest hopen hclose hcut ih =>
    rw [hkept, List.reverse_cons, ← List.append_cons] at ih
    exact ih h

/-- A segment is shorter than the text, unless the text is the only one. -/
theorem length_of_mem_splitTopLevel {delimiter part : Text} {ignoreCase : Bool}
    (h : part ∈ splitTopLevel text delimiter ignoreCase) :
    part.length < text.length ∨ splitTopLevel text delimiter ignoreCase = [text] := by
  have hsegments : ∀ {needle width shadow}, part ∈ splitFrom needle width 0 0 [] shadow text →
      part.length < text.length ∨ splitFrom needle width 0 0 [] shadow text = [text] := by
    intro needle width shadow hmember
    simpa using length_of_mem_splitFrom hmember
  cases ignoreCase with
  | true => exact hsegments h
  | false => exact hsegments h

/-- The parts of a text that is cut are shorter than the text. -/
theorem length_of_mem_cuts? {delimiter part : Text} {ignoreCase : Bool} {parts : List Text}
    (h : cuts? text delimiter ignoreCase = some parts) (hpart : part ∈ parts) :
    part.length < text.length := by
  rw [cuts?] at h
  split at h
  · cases h
  · next hcut =>
    cases h
    rw [Bool.or_eq_true, not_or, beq_iff_eq] at hcut
    exact (length_of_mem_splitTopLevel hpart).resolve_right hcut.2

/-- A text that is cut has parts. -/
theorem ne_nil_of_cuts? {delimiter : Text} {ignoreCase : Bool} {parts : List Text}
    (h : cuts? text delimiter ignoreCase = some parts) : parts ≠ [] := by
  rw [cuts?] at h
  split at h
  · cases h
  · next hcut =>
    cases h
    rw [Bool.or_eq_true, not_or, List.isEmpty_iff] at hcut
    exact hcut.1

/-- What is left after negations is shorter. -/
theorem length_of_stripNots {bound count : Nat} {rest : Text}
    (h : stripNots bound text = (count + 1, rest)) : rest.length < text.length := by
  obtain ⟨lead, rfl, hempty, -⟩ := exists_stripNots h
  have hpositive : 0 < lead.length := by
    rw [List.length_pos_iff, Ne, hempty]
    omega
  rw [List.length_append]
  omega

/-- A segment stands in the text. -/
theorem isInfix_of_mem_splitFrom {needle : Text} {width : Nat} {depth : Int} {skip : Nat}
    {current shadow part : Text} (hskip : skip ≠ 0 → current = [])
    (h : part ∈ splitFrom needle width depth skip current shadow text) :
    part <:+: current.reverse ++ text := by
  have hkept : ∀ {c : CodePoint} {current rest : Text}, part <:+: (c :: current).reverse ++ rest →
      part <:+: current.reverse ++ c :: rest := by
    intro c current rest hinfix
    rwa [List.reverse_cons, ← List.append_cons] at hinfix
  have hstopped : ∀ {current : Text}, 0 ≠ 0 → current = [] := fun hne => absurd rfl hne
  fun_induction splitFrom needle width depth skip current shadow text with
  | case1 => cases h
  | case2 =>
    cases List.mem_singleton.1 h
    exact (List.prefix_append _ _).isInfix
  | case3 depth current shadow c rest skip ih =>
    obtain rfl := hskip (Nat.succ_ne_zero skip)
    exact (ih (fun _ => rfl) h).trans (List.suffix_cons c rest).isInfix
  | case4 depth current shadow rest ih => exact hkept (ih hstopped h)
  | case5 depth current shadow rest hopen ih => exact hkept (ih hstopped h)
  | case6 depth current shadow c rest hopen hclose hcut ih =>
    rcases List.mem_cons.1 h with rfl | hother
    · exact (List.prefix_append _ _).isInfix
    · have hrest := (ih (fun _ => rfl) hother).trans (List.suffix_cons c rest).isInfix
      exact hrest.trans (List.suffix_append _ _).isInfix
  | case7 depth current shadow c rest hopen hclose hcut ih =>
    exact hkept (ih hstopped h)

/-- A part stands in the text. -/
theorem isInfix_of_mem_cuts? {delimiter part : Text} {ignoreCase : Bool} {parts : List Text}
    (h : cuts? text delimiter ignoreCase = some parts) (hpart : part ∈ parts) : part <:+: text := by
  rw [cuts?] at h
  split at h
  · cases h
  · cases h
    rw [splitTopLevel] at hpart
    split at hpart
    · exact isInfix_of_mem_splitFrom (fun _ => rfl) hpart
    · exact isInfix_of_mem_splitFrom (fun _ => rfl) hpart

/-- The code points of a part come from the text. -/
theorem mem_of_mem_cuts? {delimiter part : Text} {ignoreCase : Bool} {parts : List Text}
    (h : cuts? text delimiter ignoreCase = some parts) (hpart : part ∈ parts) {c : CodePoint}
    (hc : c ∈ part) : c ∈ text := (isInfix_of_mem_cuts? h hpart).subset hc

/-- The text that is worked on stands in the whole. -/
theorem isInfix_working (text : Text) : dropMediaType (trim text) <:+: text := by
  obtain ⟨lead, htrim, -⟩ := exists_dropMediaType (trim text)
  have hsuffix : dropMediaType (trim text) <:+ trim text := ⟨lead, htrim.symm⟩
  exact hsuffix.isInfix.trans (trim_isInfix text)

/-- The code points of the text that is worked on come from the whole. -/
theorem mem_of_mem_working {c : CodePoint} (h : c ∈ dropMediaType (trim text)) : c ∈ text :=
  (isInfix_working text).subset h

/-- What is worked on holds nothing that the text does not. -/
theorem notMem_working {c : CodePoint} (h : c ∉ text) : c ∉ dropMediaType (trim text) :=
  fun hmember => h (mem_of_mem_working hmember)

/-- What a text lacks, each of its parts lacks. -/
theorem notMem_part {c : CodePoint} (h : c ∉ text) {delimiter part : Text} {ignoreCase : Bool}
    {parts : List Text} (hcuts : cuts? (dropMediaType (trim text)) delimiter ignoreCase = some parts)
    (hpart : part ∈ parts) : c ∉ part :=
  fun hmember => notMem_working h (mem_of_mem_cuts? hcuts hpart hmember)

/-- A reading with room is one step over readings with less. -/
theorem parseWithin_succ (room : Nat) (text : Text) :
    parseWithin (room + 1) text = parseStep (parseWithin room) text := rfl

/-! ## Room for the readings -/

/-- A reading ends like another one, unless it runs out of room. -/
def Follows {α : Type} (reading other : Except ParseFault α) : Prop :=
  reading = .error .tooDeep ∨ reading = other

/-- A reading whose result is changed ends like the other one changed alike. -/
theorem Follows.map {α β : Type} {reading other : Except ParseFault α} (h : Follows reading other)
    (f : α → β) : Follows (reading.map f) (other.map f) := by
  rcases h with rfl | rfl
  · exact .inl rfl
  · exact .inr rfl

/-- Where the readings of all parts follow others, so does the reading of the parts in order. -/
theorem Follows.mapM {read other : Text → Except ParseFault Query} {parts : List Text}
    (h : ∀ part ∈ parts, Follows (read part) (other part)) :
    Follows (parts.mapM read) (parts.mapM other) := by
  induction parts with
  | nil => exact .inr rfl
  | cons part parts ih =>
    rw [List.forall_mem_cons] at h
    rw [List.mapM_cons, List.mapM_cons]
    rcases h.1 with hpart | hpart
    · rw [hpart]
      exact .inl rfl
    · rw [hpart]
      cases other part with
      | error fault => exact .inr rfl
      | ok tree =>
        rcases ih h.2 with hparts | hparts
        · rw [hparts]
          exact .inl rfl
        · rw [hparts]
          exact .inr rfl

/-- Where the readings of all shorter texts follow others, so does the reading of a text. -/
theorem parseStep_follows {read other : Text → Except ParseFault Query}
    (h : ∀ part : Text, part.length < text.length → Follows (read part) (other part)) :
    Follows (parseStep read text) (parseStep other text) := by
  have hworking := length_working_le text
  rw [parseStep, parseStep]
  split
  · next parts hcuts =>
    apply Follows.map
    exact .mapM fun part hpart => h part (lt_of_lt_of_le (length_of_mem_cuts? hcuts hpart) hworking)
  · split
    · next parts hcuts =>
      apply Follows.map
      exact .mapM fun part hpart => h part (lt_of_lt_of_le (length_of_mem_cuts? hcuts hpart) hworking)
    · split
      · exact .inr rfl
      · next count rest hcount hstrip =>
        obtain ⟨fewer, rfl⟩ := Nat.exists_eq_succ_of_ne_zero hcount
        exact (h rest (lt_of_lt_of_le (length_of_stripNots hstrip) hworking)).map _

/-- With less room a reading ends like one with more, if it ends. -/
theorem parseWithin_follows {room more : Nat} (h : room ≤ more) (text : Text) :
    Follows (parseWithin room text) (parseWithin more text) := by
  induction room generalizing more text with
  | zero => exact .inl rfl
  | succ room ih =>
    cases more with
    | zero => exact absurd h (Nat.not_succ_le_zero room)
    | succ more =>
      rw [parseWithin_succ, parseWithin_succ]
      exact parseStep_follows fun part _ => ih (Nat.le_of_succ_le_succ h) part

/-- Parts of which none runs out of room do not run out of it in order. -/
theorem mapM_ne_tooDeep {read : Text → Except ParseFault Query} {parts : List Text}
    (h : ∀ part ∈ parts, read part ≠ .error .tooDeep) : parts.mapM read ≠ .error .tooDeep := by
  induction parts with
  | nil => exact nofun
  | cons part parts ih =>
    rw [List.forall_mem_cons] at h
    rw [List.mapM_cons]
    cases hpart : read part with
    | error fault =>
      intro hdeep
      cases hdeep
      exact h.1 hpart
    | ok tree =>
      cases hparts : parts.mapM read with
      | error fault =>
        intro hdeep
        cases hdeep
        exact ih h.2 hparts
      | ok trees => exact nofun

/-- A change of the result takes no room. -/
theorem map_ne_tooDeep {α β : Type} {reading : Except ParseFault α} (f : α → β)
    (h : reading ≠ .error .tooDeep) : reading.map f ≠ .error .tooDeep := by
  cases reading with
  | error fault =>
    intro hdeep
    cases hdeep
    exact h rfl
  | ok result => exact nofun

/-- A clause takes no room to read. -/
theorem parseClause_ne_tooDeep (text : Text) : parseClause text ≠ .error .tooDeep := by
  rw [parseClause]
  split
  · split <;> exact nofun
  · split <;> exact nofun

/-- A text whose parts do not run out of room does not run out of it. -/
theorem parseStep_ne_tooDeep {read : Text → Except ParseFault Query}
    (h : ∀ part : Text, part.length < text.length → read part ≠ .error .tooDeep) :
    parseStep read text ≠ .error .tooDeep := by
  have hworking := length_working_le text
  rw [parseStep]
  split
  · next parts hcuts =>
    refine map_ne_tooDeep _ (mapM_ne_tooDeep fun part hpart => h part ?_)
    exact lt_of_lt_of_le (length_of_mem_cuts? hcuts hpart) hworking
  · split
    · next parts hcuts =>
      refine map_ne_tooDeep _ (mapM_ne_tooDeep fun part hpart => h part ?_)
      exact lt_of_lt_of_le (length_of_mem_cuts? hcuts hpart) hworking
    · split
      · exact parseClause_ne_tooDeep _
      · next count rest hcount hstrip =>
        obtain ⟨fewer, rfl⟩ := Nat.exists_eq_succ_of_ne_zero hcount
        exact map_ne_tooDeep _ (h rest (lt_of_lt_of_le (length_of_stripNots hstrip) hworking))

/-- A reading with room for more readings than the text has code points does not run out of it. -/
theorem parseWithin_ne_tooDeep {room : Nat} (h : text.length < room) :
    parseWithin room text ≠ .error .tooDeep := by
  induction room generalizing text with
  | zero => exact absurd h (Nat.not_lt_zero _)
  | succ room ih =>
    rw [parseWithin_succ]
    exact parseStep_ne_tooDeep fun part hshorter => ih (by omega)

/-! ## What a text says -/

/-- What a text says: its tree, or the first part that cannot be read, if there is room for every
reading. -/
def parse (text : Text) : Except ParseFault Query := parseWithin (text.length + 1) text

/-- The tree of a text, if there is room for every reading and all parts can be read. -/
def parse? (text : Text) : Option Query := (parse text).toOption

/-- The length of a text is room enough to read it. -/
theorem parse_ne_tooDeep (text : Text) : parse text ≠ .error .tooDeep :=
  parseWithin_ne_tooDeep (Nat.lt_succ_self _)

/-- A reading that ends gives what the text says. -/
theorem parseWithin_follows_parse (room : Nat) (text : Text) :
    Follows (parseWithin room text) (parse text) := by
  have hmore : parseWithin (max room (text.length + 1)) text = parse text :=
    ((parseWithin_follows (Nat.le_max_right _ _) text).resolve_left (parse_ne_tooDeep text)).symm
  rw [← hmore]
  exact parseWithin_follows (Nat.le_max_left _ _) text

/-- A reading that ends gives what the text is read as. -/
theorem parseWithin_eq_parse {room : Nat} (h : parseWithin room text ≠ .error .tooDeep) :
    parseWithin room text = parse text :=
  (parseWithin_follows_parse room text).resolve_left h

/-- The parts of a text are read like the text. -/
theorem parse_eq (text : Text) : parse text = parseStep parse text := by
  rw [parse, parseWithin_succ]
  have hparts : Follows (parseStep (parseWithin text.length) text) (parseStep parse text) :=
    parseStep_follows fun part _ => parseWithin_follows_parse _ part
  refine hparts.resolve_left (parseStep_ne_tooDeep fun part hshorter => ?_)
  exact parseWithin_ne_tooDeep hshorter

/-- A text is read to its tree, or to none whatever the fault. -/
theorem parse?_eq_toOption (text : Text) : parse? text = (parse text).toOption := rfl

/-- A text that is read to a tree is read without a fault. -/
theorem parse?_eq_some_iff {tree : Query} : parse? text = some tree ↔ parse text = .ok tree := by
  rw [parse?]
  cases parse text with
  | error fault => simp [Except.toOption]
  | ok other => simp [Except.toOption]

/-! ## Readings that end -/

/-- The record of a text that cannot be read. -/
def rejection? (text : Text) : Option LogRecord :=
  match parse text with
  | .error (.part fault) => some (rejection text fault)
  | _ => none

/-- The record is a warning of the parser. -/
theorem level_rejection? {record : LogRecord} (h : rejection? text = some record) :
    record.level = .warning ∧ record.source = .parser := by
  rw [rejection?] at h
  split at h
  · cases h
    exact ⟨rfl, rfl⟩
  · cases h

/-- A reading runs out of room, or it ends with what the text says. -/
theorem parseLogged_cases (room : Nat) (text : Text) :
    parseLogged room text = .error .tooDeep ∧ parseWithin room text = .error .tooDeep ∨
      parseLogged room text = .ok (parse? text, (rejection? text).toList) ∧
        parseWithin room text = parse text := by
  rcases parseWithin_follows_parse room text with hdeep | hread
  · exact .inl ⟨by rw [parseLogged, hdeep], hdeep⟩
  · refine .inr ⟨?_, hread⟩
    have hends := parse_ne_tooDeep text
    rw [parseLogged, hread, parse?, rejection?]
    cases hparse : parse text with
    | ok tree => rfl
    | error fault =>
      cases fault with
      | part fault => rfl
      | tooDeep => exact absurd hparse hends

/-- A reading that ends gives the tree of the text, and the record of a text that has none. -/
theorem parseLogged_eq_ok {room : Nat} {tree : Option Query} {records : List LogRecord}
    (h : parseLogged room text = .ok (tree, records)) :
    tree = parse? text ∧ records = (rejection? text).toList := by
  rcases parseLogged_cases room text with ⟨hdeep, -⟩ | ⟨hread, -⟩
  · cases hdeep.symm.trans h
  · cases hread.symm.trans h
    exact ⟨rfl, rfl⟩

/-- A reading with room for more readings than the text has code points ends. -/
theorem parseLogged_of_length_lt {room : Nat} (h : text.length < room) :
    parseLogged room text = .ok (parse? text, (rejection? text).toList) := by
  rcases parseLogged_cases room text with ⟨-, hdeep⟩ | ⟨hread, -⟩
  · exact absurd hdeep (parseWithin_ne_tooDeep h)
  · exact hread

/-- Some reading of the text ends, and the tree is what it gives, or it gives none. -/
def ReadsAs (text : Text) (tree : Option Query) : Prop :=
  ∃ room records, parseLogged room text = .ok (tree, records)

/-- Readings that end all give the same, and there are some. -/
theorem readsAs_iff {tree : Option Query} : ReadsAs text tree ↔ tree = parse? text := by
  constructor
  · rintro ⟨room, records, h⟩
    exact (parseLogged_eq_ok h).1
  · rintro rfl
    exact ⟨_, _, parseLogged_of_length_lt (Nat.lt_succ_self _)⟩

/-- Several texts are read as what they say. -/
theorem forall₂_readsAs_iff {texts : List Text} {trees : List (Option Query)} :
    List.Forall₂ ReadsAs texts trees ↔ trees = texts.map parse? := by
  constructor
  · intro h
    induction h with
    | nil => rfl
    | cons hfirst _ ih => rw [List.map_cons, ← readsAs_iff.1 hfirst, ← ih]
  · rintro rfl
    rw [List.forall₂_map_right_iff, List.forall₂_same]
    exact fun text _ => readsAs_iff.2 rfl

/-! ## What the parts say -/

/-- Parts are all read when none of them has a fault. -/
theorem toOption_mapM_parse (parts : List Text) :
    (parts.mapM parse).toOption = parts.mapM parse? := by
  induction parts with
  | nil => rfl
  | cons part parts ih =>
    rw [List.mapM_cons, List.mapM_cons, ← ih, parse?_eq_toOption]
    cases parse part with
    | error fault => rfl
    | ok tree =>
      cases parts.mapM parse with
      | error fault => rfl
      | ok trees => rfl

/-- A text that is cut at commas is read part by part. -/
theorem parse?_of_cuts? {working : Text} {parts : List Text}
    (hworking : dropMediaType (trim text) = working) (hcuts : cuts? working "," false = some parts) :
    parse? text = (parts.mapM parse?).map (joinLeft .disj) := by
  have hread : parse text = (parts.mapM parse).map (joinLeft .disj) := by
    rw [parse_eq]
    simp only [parseStep, hworking, hcuts]
  rw [parse?_eq_toOption, hread, ← toOption_mapM_parse]
  cases parts.mapM parse <;> rfl

/-- A text that is cut at conjunctions only is read part by part. -/
theorem parse?_of_operands {parts : List Text}
    (hcomma : cuts? (dropMediaType (trim text)) "," false = none)
    (hcuts : cuts? (dropMediaType (trim text)) " and " true = some parts) :
    parse? text = (parts.mapM parse?).map (joinLeft .conj) := by
  have hread : parse text = (parts.mapM parse).map (joinLeft .conj) := by
    rw [parse_eq]
    simp only [parseStep, hcomma, hcuts]
  rw [parse?_eq_toOption, hread, ← toOption_mapM_parse]
  cases parts.mapM parse <;> rfl

/-- The feature of a text between parentheses, if it writes one. -/
def featureOf? (text : Text) : Option Query :=
  (clause? text).bind fun content => (feature? (trim content)).map .feature

/-- A text that is not cut is read as what comes after its negations. -/
theorem parse?_of_uncut {count : Nat} {rest : Text}
    (hcomma : cuts? (dropMediaType (trim text)) "," false = none)
    (hconjunction : cuts? (dropMediaType (trim text)) " and " true = none)
    (hstrip : stripNots (dropMediaType (trim text)).length (dropMediaType (trim text)) =
      (count, rest)) :
    parse? text =
      if count = 0 then featureOf? rest else (parse? rest).map (negated count) := by
  have hread : parse text =
      if count = 0 then parseClause rest else (parse rest).map (negated count) := by
    rw [parse_eq]
    simp only [parseStep, hcomma, hconjunction, hstrip]
    cases count <;> rfl
  rw [parse?_eq_toOption, hread]
  split
  · rw [parseClause, featureOf?]
    cases clause? rest with
    | none => dsimp only; split <;> rfl
    | some content =>
      dsimp only [Option.bind_some]
      cases feature? (trim content) with
      | none => rfl
      | some test => rfl
  · rw [parse?_eq_toOption]
    cases parse rest <;> rfl

/-! ## Induction over what is read -/

/-- Parts that are all read give one result each. -/
theorem forall₂_of_mapM_ok {α β ε : Type} {read : α → Except ε β} {parts : List α} {results : List β}
    (h : parts.mapM read = .ok results) :
    List.Forall₂ (fun part result => read part = .ok result) parts results := by
  induction parts generalizing results with
  | nil =>
    cases h
    exact .nil
  | cons part parts ih =>
    rw [List.mapM_cons] at h
    cases hfirst : read part with
    | error fault =>
      rw [hfirst] at h
      cases h
    | ok first =>
      cases hrest : parts.mapM read with
      | error fault =>
        rw [hfirst, hrest] at h
        cases h
      | ok rest =>
        rw [hfirst, hrest] at h
        cases h
        exact .cons hfirst (ih hrest)

/-- A cut text is read if its parts are, to the trees of the parts put together. -/
theorem exists_of_map_mapM_ok {read : Text → Except ParseFault Query} {parts : List Text}
    {join : Query → Query → Query} {tree : Query}
    (h : (parts.mapM read).map (joinLeft join) = .ok tree) :
    ∃ trees, List.Forall₂ (fun part result => read part = .ok result) parts trees ∧
      tree = joinLeft join trees := by
  cases htrees : parts.mapM read with
  | error fault =>
    rw [htrees] at h
    cases h
  | ok trees =>
    rw [htrees] at h
    cases h
    exact ⟨trees, forall₂_of_mapM_ok htrees, rfl⟩

/-- What holds of a text and its tree, if it passes from the parts of every text that is read to
the text: from alternatives, from operands, from below negations, and of every clause. -/
theorem parse_induction (holds : Text → Query → Prop)
    (alternatives : ∀ text parts trees, cuts? (dropMediaType (trim text)) "," false = some parts →
      List.Forall₂ holds parts trees → holds text (joinLeft .disj trees))
    (operands : ∀ text parts trees, cuts? (dropMediaType (trim text)) "," false = none →
      cuts? (dropMediaType (trim text)) " and " true = some parts →
      List.Forall₂ holds parts trees → holds text (joinLeft .conj trees))
    (negations : ∀ text count rest tree, cuts? (dropMediaType (trim text)) "," false = none →
      cuts? (dropMediaType (trim text)) " and " true = none →
      stripNots (dropMediaType (trim text)).length (dropMediaType (trim text)) = (count + 1, rest) →
      holds rest tree → holds text (negated (count + 1) tree))
    (clause : ∀ text tree, cuts? (dropMediaType (trim text)) "," false = none →
      cuts? (dropMediaType (trim text)) " and " true = none →
      parseClause (dropMediaType (trim text)) = .ok tree → holds text tree)
    {tree : Query} (h : parse text = .ok tree) : holds text tree := by
  induction hlength : text.length using Nat.strong_induction_on generalizing text tree with
  | _ length ih =>
    have hworking : (dropMediaType (trim text)).length ≤ length := hlength ▸ length_working_le text
    have hparts : ∀ delimiter ignoreCase parts trees,
        cuts? (dropMediaType (trim text)) delimiter ignoreCase = some parts →
        List.Forall₂ (fun part result => parse part = .ok result) parts trees →
          List.Forall₂ holds parts trees := by
      intro delimiter ignoreCase parts trees hcuts htrees
      rw [List.forall₂_iff_get] at htrees ⊢
      refine ⟨htrees.1, fun index hpart htree => ih _ ?_ (htrees.2 index hpart htree) rfl⟩
      exact lt_of_lt_of_le (length_of_mem_cuts? hcuts (List.get_mem _ _)) hworking
    rw [parse_eq, parseStep] at h
    split at h
    · next parts hcuts =>
      obtain ⟨trees, htrees, rfl⟩ := exists_of_map_mapM_ok h
      exact alternatives text parts trees hcuts (hparts _ _ _ _ hcuts htrees)
    · next hcomma =>
      split at h
      · next parts hcuts =>
        obtain ⟨trees, htrees, rfl⟩ := exists_of_map_mapM_ok h
        exact operands text parts trees hcomma hcuts (hparts _ _ _ _ hcuts htrees)
      · next hconjunction =>
        split at h
        · next rest hstrip =>
          obtain ⟨lead, hlead, hempty, -⟩ := exists_stripNots hstrip
          rw [hempty.2 rfl, List.nil_append] at hlead
          rw [← hlead] at h
          exact clause text tree hcomma hconjunction h
        · next count rest hcount hstrip =>
          obtain ⟨fewer, rfl⟩ := Nat.exists_eq_succ_of_ne_zero hcount
          cases hrest : parse rest with
          | error fault =>
            rw [hrest] at h
            cases h
          | ok below =>
            rw [hrest] at h
            cases h
            have hshorter := lt_of_lt_of_le (length_of_stripNots hstrip) hworking
            exact negations text fewer rest below hcomma hconjunction hstrip
              (ih _ hshorter hrest rfl)

/-- A clause begins with a parenthesis. -/
theorem mem_of_parseClause {tree : Query} (h : parseClause text = .ok tree) : .char '(' ∈ text := by
  rw [parseClause] at h
  split at h
  · next content hclause =>
    rw [clause?.eq_def] at hclause
    split at hclause
    · exact List.mem_cons_self
    · cases hclause
  · split at h <;> cases h

/-- There is a parenthesis in every text that is read. -/
theorem mem_of_parse {tree : Query} (h : parse text = .ok tree) : .char '(' ∈ text := by
  have hcut : ∀ (text delimiter : Text) ignoreCase parts (trees : List Query),
      cuts? (dropMediaType (trim text)) delimiter ignoreCase = some parts →
      List.Forall₂ (fun part _ => .char '(' ∈ part) parts trees → .char '(' ∈ text := by
    intro text delimiter ignoreCase parts trees hcuts hparts
    cases hparts with
    | nil => exact absurd rfl (ne_nil_of_cuts? hcuts)
    | cons hfirst _ => exact mem_of_mem_working (mem_of_mem_cuts? hcuts List.mem_cons_self hfirst)
  refine parse_induction (fun text _ => .char '(' ∈ text) ?alternatives ?operands ?negations
    ?clause h
  case alternatives => exact fun text parts trees => hcut text _ _ parts trees
  case operands => exact fun text parts trees _ => hcut text _ _ parts trees
  case negations =>
    intro text count rest tree _ _ hstrip hrest
    obtain ⟨lead, hlead, -⟩ := exists_stripNots hstrip
    apply mem_of_mem_working
    rw [hlead]
    exact List.mem_append_right lead hrest
  case clause => exact fun text tree _ _ hclause => mem_of_mem_working (mem_of_parseClause hclause)

/-- A text without a parenthesis is read to none. -/
theorem parse?_eq_none (h : .char '(' ∉ text) : parse? text = none := by
  rw [parse?_eq_toOption]
  cases hparse : parse text with
  | error fault => rfl
  | ok tree => exact absurd (mem_of_parse hparse) h

end Breakpoint.Query
