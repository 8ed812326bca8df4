import Breakpoint.Proofs.Document.Series
import Breakpoint.Proofs.Document.Texts

/-!
# Documents are read as they are written

The reader of documents gives a value for a text exactly if the text is a document of that value
within the limits of the reader. It refuses a text exactly where what is such a document so far comes
to an integer of too many digits, or to a list or a map that there is no room for.
-/

namespace Breakpoint.Document

open Decimal

variable {text rest blanks : Text} {fuel room : Nat}

/-! ## One step of the reader -/

/-- After a quote, a value is a text. -/
theorem readValue_text (room fuel : Nat) (rest : Text) :
    readValue room (fuel + 1) (.char '\x22' :: rest) =
      (readText (rest.length + 1) [] rest).map fun found => (.text found.1, found.2) := by
  rw [readValue]
  cases readText (rest.length + 1) [] rest <;> rfl

/-- After an opening bracket, a value is a list, read with less room. -/
theorem readValue_list (room fuel : Nat) (rest : Text) :
    readValue (room + 1) (fuel + 1) (.char '[' :: rest) =
      readEnclosed (.char ']') (readItems room fuel) .list rest := by
  rw [readValue, readEnclosed]
  split
  · next heq =>
    rw [heq]
    rfl
  · next hclose =>
    rw [if_neg]
    · cases readItems room fuel (skipBlanks rest) <;> rfl
    · intro hhead
      obtain ⟨after, hafter⟩ := List.head?_eq_some_iff.1 hhead
      exact hclose _ hafter

/-- After an opening brace, a value is a map, read with less room. -/
theorem readValue_dict (room fuel : Nat) (rest : Text) :
    readValue (room + 1) (fuel + 1) (.char '\x7b' :: rest) =
      readEnclosed (.char '\x7d') (readEntries room fuel)
        (fun entries => .dict (Dict.ofList entries).entries) rest := by
  rw [readValue, readEnclosed]
  split
  · next heq =>
    rw [heq]
    rfl
  · next hclose =>
    rw [if_neg]
    · cases readEntries room fuel (skipBlanks rest) <;> rfl
    · intro hhead
      obtain ⟨after, hafter⟩ := List.head?_eq_some_iff.1 hhead
      exact hclose _ hafter

/-- Every other value has no members. -/
theorem readValue_atom (hquote : ∀ rest, text ≠ .char '\x22' :: rest)
    (hlist : ∀ rest, text ≠ .char '[' :: rest) (hdict : ∀ rest, text ≠ .char '\x7b' :: rest) :
    readValue room (fuel + 1) text = readAtom text := by
  rw [readValue.eq_def]
  dsimp only
  split
  · exact absurd rfl (hquote _)
  · exact absurd rfl (hlist _)
  · exact absurd rfl (hdict _)
  · rfl

/-- A name with its value. -/
def readEntry (room fuel : Nat) : Text → Except ReadFault ((Text × Value) × Text)
  | .char '\x22' :: rest =>
    match readText (rest.length + 1) [] rest with
    | .error fault => .error fault
    | .ok (name, rest) =>
      match skipBlanks rest with
      | .char ':' :: rest =>
        (readValue room fuel (skipBlanks rest)).map fun found => ((name, found.1), found.2)
      | _ => .error .malformed
  | _ => .error .malformed

/-- The items of a list are a series of values. -/
theorem readItems_succ (room fuel : Nat) (text : Text) :
    readItems room (fuel + 1) text =
      readSeries (.char ']') (readValue room fuel) (readItems room fuel) text := by
  rw [readItems, readSeries]
  cases readValue room fuel text with
  | error fault => rfl
  | ok found =>
    obtain ⟨item, rest⟩ := found
    simp only [bind, Except.bind]
    split
    · next hskip => rw [hskip, finishSeries_close]; rfl
    · next rest hskip =>
      rw [hskip, finishSeries_comma (by decide)]
      cases readItems room fuel (skipBlanks rest) <;> rfl
    · next hclose hcomma => rw [finishSeries_other hclose hcomma]

section Entry

variable {name after : Text}

/-- An entry is a name, a colon and a value. -/
theorem readEntry_colon (hname : readText (rest.length + 1) [] rest = .ok (name, after))
    (hcolon : skipBlanks after = .char ':' :: text) :
    readEntry room fuel (.char '\x22' :: rest) =
      (readValue room fuel (skipBlanks text)).map fun found => ((name, found.1), found.2) := by
  rw [readEntry, hname]
  dsimp only
  rw [hcolon]
  rfl

/-- An entry without a colon is malformed. -/
theorem readEntry_noColon (hname : readText (rest.length + 1) [] rest = .ok (name, after))
    (hcolon : ∀ text, skipBlanks after ≠ .char ':' :: text) :
    readEntry room fuel (.char '\x22' :: rest) = .error .malformed := by
  rw [readEntry, hname]
  dsimp only
  split
  · next heq => exact absurd heq (hcolon _)
  · rfl

/-- An entry whose name cannot be read fails as the name does. -/
theorem readEntry_noName {fault : ReadFault} (hname : readText (rest.length + 1) [] rest = .error fault) :
    readEntry room fuel (.char '\x22' :: rest) = .error fault := by
  rw [readEntry, hname]

/-- An entry that does not begin with a quote is malformed. -/
theorem readEntry_noQuote (hquote : ∀ rest, text ≠ .char '\x22' :: rest) :
    readEntry room fuel text = .error .malformed := by
  rw [readEntry.eq_def]
  split
  · exact absurd rfl (hquote _)
  · rfl

end Entry

/-- The entries of a map are a series of entries. -/
theorem readEntries_succ (room fuel : Nat) (text : Text) :
    readEntries room (fuel + 1) text =
      readSeries (.char '\x7d') (readEntry room fuel) (readEntries room fuel) text := by
  rw [readEntries.eq_def, readSeries]
  dsimp only
  split
  · next rest =>
    simp only [bind, Except.bind]
    cases hname : readText (rest.length + 1) [] rest with
    | error fault => rw [readEntry_noName hname]
    | ok found =>
      obtain ⟨name, after⟩ := found
      dsimp only
      split
      · next text hcolon =>
        rw [readEntry_colon hname hcolon]
        cases readValue room fuel (skipBlanks text) with
        | error fault => rfl
        | ok found =>
          obtain ⟨value, rest⟩ := found
          dsimp only [Except.map]
          split
          · next hskip =>
            rw [hskip, finishSeries_close]
            rfl
          · next rest hskip =>
            rw [hskip, finishSeries_comma (by decide)]
            cases readEntries room fuel (skipBlanks rest) <;> rfl
          · next hclose hcomma => rw [finishSeries_other hclose hcomma]
      · next hcolon => rw [readEntry_noColon hname hcolon]
  · next hquote => rw [readEntry_noQuote hquote]

/-! ## What is read is a document -/

/-- The text is one of an entry, within the limits of the reader. -/
abbrev WritesEntry (room : Nat) (text : Text) (entry : Text × Value) : Prop :=
  Writes digitLimit room text (.entry entry)

/-- The text is one of the items of a list, within the limits of the reader. -/
abbrev WritesItems (room : Nat) (text : Text) (items : List Value) : Prop :=
  Writes digitLimit room text (.items items)

/-- The text is one of the entries of a map, within the limits of the reader. -/
abbrev WritesEntries (room : Nat) (text : Text) (entries : List (Text × Value)) : Prop :=
  Writes digitLimit room text (.entries entries)

/-- The items of a list are written as a series of values. -/
theorem isSeries_items (room : Nat) :
    IsSeries (WritesValue room) (WritesItems room) (Stalls room .value) (Stalls room .items) :=
  ⟨.lastItem, .moreItems, .item, .laterItem⟩

/-- The entries of a map are written as a series of entries. -/
theorem isSeries_entries (room : Nat) :
    IsSeries (WritesEntry room) (WritesEntries room) (Stalls room .entry) (Stalls room .entries) :=
  ⟨.lastEntry, .moreEntries, .firstEntry, .laterEntry⟩

/-- Whatever is read as a text writes it up to the closing quote, and nothing stops it on the
way. -/
theorem readText_explains (fuel : Nat) (text : Text) :
    Explains (Closed (.char '\x22') WritesText) (fun _ _ => False) text (readText fuel [] text) := by
  cases hread : readText fuel [] text with
  | ok found =>
    obtain ⟨said, rest⟩ := found
    obtain ⟨body, more, rfl, rfl, hbody⟩ := exists_of_readText hread
    exact ⟨body ++ [.char '\x22'], by simp, body, rfl, hbody⟩
  | error fault =>
    cases fault with
    | malformed => trivial
    | refused => exact readText_ne_refused _ _ _ _ hread

/-- What is taken for an entry is one, if values are. -/
theorem readEntry_explains
    (hvalue : ∀ text,
      Explains (WritesValue room) (Stalls room .value) text (readValue room fuel text))
    (text : Text) :
    Explains (WritesEntry room) (Stalls room .entry) text (readEntry room fuel text) := by
  by_cases hquote : ∃ rest, text = .char '\x22' :: rest
  · obtain ⟨rest, rfl⟩ := hquote
    have hread := readText_explains (rest.length + 1) rest
    cases hname : readText (rest.length + 1) [] rest with
    | error fault =>
      rw [hname] at hread
      rw [readEntry_noName hname]
      cases fault with
      | malformed => trivial
      | refused => exact hread.elim
    | ok found =>
      obtain ⟨name, after⟩ := found
      rw [hname] at hread
      obtain ⟨_, hrest, body, rfl, hbody⟩ := hread
      by_cases hcolon : ∃ text, skipBlanks after = .char ':' :: text
      · obtain ⟨text, hcolon⟩ := hcolon
        rw [readEntry_colon hname hcolon]
        obtain ⟨before, hbefore, hblanksBefore⟩ := exists_skipBlanks after
        obtain ⟨between, hbetween, hblanks⟩ := exists_skipBlanks text
        have htext : .char '\x22' :: rest = .char '\x22' :: (body ++ .char '\x22' ::
            (before ++ .char ':' :: between)) ++ skipBlanks text := by
          rw [hcolon, hbetween] at hbefore
          rw [hrest, hbefore]
          simp
        rw [htext]
        refine (hvalue (skipBlanks text)).enclose _ (Prod.mk name) ?_ ?_
        · intro front value hfront
          have hwrites := Writes.entry hbody hblanksBefore hblanks hfront
          simpa using hwrites
        · intro _ hstalled
          have hstalls := Stalls.entry hbody hblanksBefore hblanks hstalled
          simpa using hstalls
      · rw [readEntry_noColon hname (fun text heq => hcolon ⟨text, heq⟩)]
        trivial
  · rw [readEntry_noQuote fun rest heq => hquote ⟨rest, heq⟩]
    trivial

/-- What is taken for a value is one, if the items and entries inside it are. -/
theorem readValue_explains
    (hitems : ∀ room text, Explains (Closed (.char ']') (WritesItems room)) (Stalls room .items) text
      (readItems room fuel text))
    (hentries : ∀ room text, Explains (Closed (.char '\x7d') (WritesEntries room))
      (Stalls room .entries) text (readEntries room fuel text))
    (room : Nat) (text : Text) :
    Explains (WritesValue room) (Stalls room .value) text (readValue room (fuel + 1) text) := by
  by_cases hquote : ∃ rest, text = .char '\x22' :: rest
  · obtain ⟨rest, rfl⟩ := hquote
    rw [readValue_text]
    refine (readText_explains (rest.length + 1) rest).enclose [.char '\x22'] Value.text ?_ False.elim
    rintro _ said ⟨body, rfl, hbody⟩
    exact .text hbody
  by_cases hlist : ∃ rest, text = .char '[' :: rest
  · obtain ⟨rest, rfl⟩ := hlist
    cases room with
    | zero => exact .deepList
    | succ room =>
      rw [readValue_list]
      exact readEnclosed_explains .emptyList .list .list (hitems room) rest
  by_cases hdict : ∃ rest, text = .char '\x7b' :: rest
  · obtain ⟨rest, rfl⟩ := hdict
    cases room with
    | zero => exact .deepDict
    | succ room =>
      rw [readValue_dict]
      refine readEnclosed_explains ?_ ?_ .dict (hentries room) rest
      · exact fun hblanks => .emptyDict hblanks
      · exact fun hblanks h => .dict hblanks h
  rw [readValue_atom (fun rest heq => hquote ⟨rest, heq⟩) (fun rest heq => hlist ⟨rest, heq⟩)
    fun rest heq => hdict ⟨rest, heq⟩]
  exact readAtom_explains room text

/-- What is read has the form of what it is read as. -/
theorem reader_explains (fuel : Nat) :
    (∀ room text,
      Explains (WritesValue room) (Stalls room .value) text (readValue room fuel text)) ∧
    (∀ room text, Explains (Closed (.char ']') (WritesItems room)) (Stalls room .items) text
      (readItems room fuel text)) ∧
    ∀ room text, Explains (Closed (.char '\x7d') (WritesEntries room)) (Stalls room .entries) text
      (readEntries room fuel text) := by
  induction fuel with
  | zero => exact ⟨fun _ _ => trivial, fun _ _ => trivial, fun _ _ => trivial⟩
  | succ fuel ih =>
    obtain ⟨hvalue, hitems, hentries⟩ := ih
    refine ⟨readValue_explains hitems hentries, ?_, ?_⟩
    · intro room text
      rw [readItems_succ]
      exact readSeries_explains (isSeries_items room) (hvalue room) (hitems room) text
    · intro room text
      rw [readEntries_succ]
      exact readSeries_explains (isSeries_entries room) (readEntry_explains (hvalue room))
        (hentries room) text

/-! ## Documents are read -/

/-- What begins like a value without members is read as one. -/
theorem readValue_of_isAtomHead {c : CodePoint} (h : isAtomHead c = true) (rest : Text) :
    readValue room (fuel + 1) (c :: rest) = readAtom (c :: rest) := by
  apply readValue_atom
  all_goals
    intro rest heq
    cases heq
    cases h

/-- Every piece of a document begins without a blank. -/
theorem Writes.opens {most : Nat} {piece : Piece} (h : Writes most room text piece) :
    Opens text := by
  induction h with
  | word hword =>
    obtain ⟨c, more, rfl, hc⟩ := hword.exists_cons
    exact opens_of_isAtomHead hc more
  | number hnumber =>
    obtain ⟨c, more, rfl, hc⟩ := hnumber.exists_cons
    exact opens_of_isAtomHead (isAtomHead_of_digit hc) more
  | negative => exact opens_of_isAtomHead (by decide) _
  | text | emptyList | list | emptyDict | dict | entry => exact ⟨_, _, rfl, by decide⟩
  | lastItem _ _ ih | moreItems _ _ _ _ ih _ | lastEntry _ _ ih | moreEntries _ _ _ _ ih _ =>
    exact ih.append _

/-- What stops the reader begins without a blank. -/
theorem Stalls.opens {start : Start} {refusal : Refusal} (h : Stalls room start refusal text) :
    Opens text := by
  induction h with
  | integer hlong =>
    obtain ⟨c, more, rfl, hc⟩ := hlong.exists_cons
    exact opens_of_isAtomHead (isAtomHead_of_digit hc) more
  | negative => exact opens_of_isAtomHead (by decide) _
  | deepList | deepDict | list | dict | entry => exact ⟨_, _, rfl, by decide⟩
  | item _ ih | firstEntry _ ih => exact ih
  | laterItem h | laterEntry h => exact h.opens.append _

/-- An entry is read through its name and its colon, and then as its value is. -/
theorem readEntry_append {body name before after : Text} (hname : WritesText body name)
    (hbefore : IsBlanks before) (hafter : IsBlanks after) (h : Opens text) :
    readEntry room fuel
        (.char '\x22' :: (body ++ .char '\x22' :: (before ++ .char ':' :: (after ++ text)))) =
      (readValue room fuel text).map fun found => ((name, found.1), found.2) := by
  have hcolon : skipBlanks (before ++ .char ':' :: (after ++ text)) = .char ':' :: (after ++ text) := by
    apply skipBlanks_append hbefore
    intro d hd
    cases hd
    decide
  rw [readEntry_colon (readText_append hname _ [] ?_) hcolon, skipBlanks_opens hafter h]
  · rfl
  · rw [List.length_append]
    omega

/-- The reader of items takes a series of values apart. -/
theorem takesApart_items (room : Nat) :
    TakesApart (.char ']') (readValue room) (readItems room) :=
  ⟨by decide, by decide, readItems_succ room⟩

/-- The reader of entries takes a series of entries apart. -/
theorem takesApart_entries (room : Nat) :
    TakesApart (.char '\x7d') (readEntry room) (readEntries room) :=
  ⟨by decide, by decide, readEntries_succ room⟩

/-- With enough fuel, the text is read as the piece that it writes. -/
def IsRead (room : Nat) : Text → Piece → Prop
  | text, .value value => ReadsMember (readValue room) text value
  | text, .items items => ReadsMembers (.char ']') (readItems room) text items
  | text, .entry entry => ReadsMember (readEntry room) text entry
  | text, .entries entries => ReadsMembers (.char '\x7d') (readEntries room) text entries

/-- Every piece of a document within the limits is read as what it is. -/
theorem Writes.isRead {piece : Piece} (h : Writes digitLimit room text piece) :
    IsRead room text piece := by
  -- a step costs one unit of fuel, and from a value to a value inside it there are at most two
  -- steps for one code point
  induction h with
  | word hword =>
    intro fuel rest hrest hfuel
    have hread := readWord_append hword rest
    obtain ⟨c, more, rfl, hc⟩ := hword.exists_cons
    rw [List.cons_append] at hread ⊢
    rw [readValue_of_isAtomHead hc, readAtom_eq, hread]
  | number hnumber =>
    intro fuel rest hrest hfuel
    have hread := readMagnitude_append hnumber hrest
    obtain ⟨c, more, rfl, hc⟩ := hnumber.exists_cons
    rw [List.cons_append] at hread ⊢
    rw [readValue_of_isAtomHead (isAtomHead_of_digit hc), (readAtom_of_digit hc _).1]
    exact hread
  | negative hnumber =>
    intro fuel rest hrest hfuel
    have hread := readMagnitude_append hnumber hrest
    obtain ⟨c, more, rfl, hc⟩ := hnumber.exists_cons
    rw [List.cons_append] at hread
    rw [List.cons_append, List.cons_append, readValue_of_isAtomHead (by decide),
      (readAtom_of_digit hc _).2]
    exact hread
  | @text room body said hbody =>
    intro fuel rest hrest hfuel
    have hshort : body.length < (body ++ .char '\x22' :: rest).length + 1 := by
      rw [List.length_append]
      omega
    rw [List.cons_append, List.append_assoc, List.singleton_append, readValue_text,
      readText_append hbody rest [] hshort]
    rfl
  | emptyList hblanks =>
    intro fuel rest hrest hfuel
    rw [List.cons_append, List.append_assoc, List.singleton_append, readValue_list,
      readEnclosed_empty (by decide) hblanks]
  | @list room blanks text items hblanks h ih =>
    intro fuel rest hrest hfuel
    simp only [List.length_cons, List.length_append] at hfuel
    have hlt : 2 * text.length + 1 < fuel := by omega
    rw [List.cons_append, List.append_assoc, List.append_assoc, List.singleton_append,
      readValue_list]
    exact ReadsMembers.enclosed ih (by decide) hblanks h.opens hlt _ rest
  | emptyDict hblanks =>
    intro fuel rest hrest hfuel
    rw [List.cons_append, List.append_assoc, List.singleton_append, readValue_dict,
      readEnclosed_empty (by decide) hblanks]
    rfl
  | @dict room blanks text entries hblanks h ih =>
    intro fuel rest hrest hfuel
    simp only [List.length_cons, List.length_append] at hfuel
    have hlt : 2 * text.length + 1 < fuel := by omega
    rw [List.cons_append, List.append_assoc, List.append_assoc, List.singleton_append,
      readValue_dict]
    exact ReadsMembers.enclosed ih (by decide) hblanks h.opens hlt _ rest
  | lastItem _ hblanks ih => exact (takesApart_items _).last ih hblanks
  | moreItems _ hbefore hafter hmore ih ihMore =>
    exact (takesApart_items _).next ih hbefore hafter hmore.opens ihMore
  | @entry room body name before after text value hname hbefore hafter h ih =>
    intro fuel rest hrest hfuel
    simp only [List.length_cons, List.length_append] at hfuel
    have hless : 2 * text.length ≤ fuel := by omega
    simp only [List.append_assoc, List.cons_append]
    rw [readEntry_append hname hbefore hafter (h.opens.append _), ih hrest hless]
    rfl
  | lastEntry _ hblanks ih => exact (takesApart_entries _).last ih hblanks
  | moreEntries _ hbefore hafter hmore ih ihMore =>
    exact (takesApart_entries _).next ih hbefore hafter hmore.opens ihMore

/-- With enough fuel, the text is refused. -/
def IsRefused (room : Nat) : Start → Refusal → Text → Prop
  | .value => RefusesMember (readValue room)
  | .items => RefusesMembers (readItems room)
  | .entry => RefusesMember (readEntry room)
  | .entries => RefusesMembers (readEntries room)

/-- Reading stops where an integer is too long or there is no room. -/
theorem Stalls.isRefused {start : Start} {refusal : Refusal} (h : Stalls room start refusal text) :
    IsRefused room start refusal text := by
  induction h with
  | integer hlong =>
    intro fuel hfuel
    have hread := readMagnitude_of_beginsLong false hlong
    obtain ⟨c, more, rfl, hc⟩ := hlong.exists_cons
    rw [readValue_of_isAtomHead (isAtomHead_of_digit hc), (readAtom_of_digit hc _).1, hread]
  | negative hlong =>
    intro fuel hfuel
    have hread := readMagnitude_of_beginsLong true hlong
    obtain ⟨c, more, rfl, hc⟩ := hlong.exists_cons
    rw [readValue_of_isAtomHead (by decide), (readAtom_of_digit hc _).2, hread]
  | deepList | deepDict => exact fun _ => rfl
  | @list room refusal blanks text hblanks h ih =>
    intro fuel hfuel
    simp only [List.length_cons, List.length_append] at hfuel
    have hlt : 2 * text.length + 1 < fuel := by omega
    rw [readValue_list]
    exact RefusesMembers.enclosed ih (by decide) hblanks h.opens hlt _
  | @dict room refusal blanks text hblanks h ih =>
    intro fuel hfuel
    simp only [List.length_cons, List.length_append] at hfuel
    have hlt : 2 * text.length + 1 < fuel := by omega
    rw [readValue_dict]
    exact RefusesMembers.enclosed ih (by decide) hblanks h.opens hlt _
  | item _ ih => exact (takesApart_items _).refusesFirst ih
  | laterItem h hbefore hafter hmore ih =>
    exact (takesApart_items _).refusesLater h.isRead hbefore hafter hmore.opens ih
  | @entry room refusal body name before after text hname hbefore hafter h ih =>
    intro fuel hfuel
    simp only [List.length_cons, List.length_append] at hfuel
    have hless : 2 * text.length ≤ fuel := by omega
    rw [readEntry_append hname hbefore hafter h.opens, ih hless]
    rfl
  | firstEntry _ ih => exact (takesApart_entries _).refusesFirst ih
  | laterEntry h hbefore hafter hmore ih =>
    exact (takesApart_entries _).refusesLater h.isRead hbefore hafter hmore.opens ih

/-! ## Whole documents -/

section Whole

variable {document : Text} {value : Value} {refusal : Refusal}

/-- A document is one value with nothing but blanks around it. -/
theorem read_eq (room : Nat) (document : Text) :
    read room document =
      match readValue room (2 * (skipBlanks document).length + 2) (skipBlanks document) with
      | .error fault => .error fault
      | .ok (value, rest) => if (skipBlanks rest).isEmpty then .ok value else .error .malformed := by
  rw [read]
  cases readValue room (2 * (skipBlanks document).length + 2) (skipBlanks document) <;> rfl

/-- A document that is read is one of the value within the limits. -/
theorem isDocumentWithin_of_read (h : read room document = .ok value) :
    IsDocumentWithin digitLimit room document value := by
  obtain ⟨before, hbefore, hblanks⟩ := exists_skipBlanks document
  have hvalue := (reader_explains (2 * (skipBlanks document).length + 2)).1 room (skipBlanks document)
  rw [read_eq] at h
  split at h
  · cases h
  · next found rest hread =>
    split at h
    · next hend =>
      cases h
      rw [hread] at hvalue
      obtain ⟨text, htext, hwrites⟩ := hvalue
      obtain ⟨after, hafter, hblanksAfter⟩ := exists_skipBlanks rest
      rw [List.isEmpty_iff.1 hend, List.append_nil] at hafter
      rw [htext, hafter] at hbefore
      exact ⟨before, text, after, hbefore, hblanks, hblanksAfter, hwrites⟩
    · cases h

/-- A document that is refused is one up to where reading stops. -/
theorem isStopped_of_read (h : read room document = .error (.refused refusal)) :
    IsStopped room refusal document := by
  obtain ⟨before, hbefore, hblanks⟩ := exists_skipBlanks document
  have hvalue := (reader_explains (2 * (skipBlanks document).length + 2)).1 room (skipBlanks document)
  rw [read_eq] at h
  split at h
  · next fault hread =>
    cases h
    rw [hread] at hvalue
    exact ⟨before, skipBlanks document, hbefore, hblanks, hvalue⟩
  · split at h <;> cases h

/-- What follows a document ends a number. -/
theorem endsNumber_of_isBlanks (hblanks : IsBlanks blanks) : EndsNumber blanks := by
  have hnone : EndsNumber [] := fun c hc => by cases hc
  rw [← List.append_nil blanks]
  exact hnone.blanks_append hblanks

/-- A document of a value within the limits is read as this value. -/
theorem read_of_isDocumentWithin (h : IsDocumentWithin digitLimit room document value) :
    read room document = .ok value := by
  obtain ⟨before, text, after, rfl, hbefore, hafter, hwrites⟩ := h
  have hskip : skipBlanks (before ++ (text ++ after)) = text ++ after :=
    skipBlanks_opens hbefore (hwrites.opens.append after)
  have hfuel : 2 * text.length ≤ 2 * (text ++ after).length + 1 := by
    rw [List.length_append]
    omega
  have hend : skipBlanks after = [] := by
    have hskipped : skipBlanks (after ++ []) = [] :=
      skipBlanks_append hafter fun c hc => by cases hc
    rwa [List.append_nil] at hskipped
  rw [read_eq, hskip, hwrites.isRead (endsNumber_of_isBlanks hafter) hfuel]
  dsimp only
  rw [hend]
  rfl

/-- A text at which reading stops is refused. -/
theorem read_of_isStopped (h : IsStopped room refusal document) :
    read room document = .error (.refused refusal) := by
  obtain ⟨before, text, rfl, hbefore, hstalls⟩ := h
  have hfuel : 2 * text.length ≤ 2 * text.length + 1 := by omega
  rw [read_eq, skipBlanks_opens hbefore hstalls.opens, hstalls.isRefused hfuel]

/-- Reading gives a value exactly for a document of this value within the limits. -/
theorem read_eq_ok_iff :
    read room document = .ok value ↔ IsDocumentWithin digitLimit room document value :=
  ⟨isDocumentWithin_of_read, read_of_isDocumentWithin⟩

/-- Reading refuses exactly the texts at which it stops. -/
theorem read_eq_refused_iff :
    read room document = .error (.refused refusal) ↔ IsStopped room refusal document :=
  ⟨isStopped_of_read, read_of_isStopped⟩

end Whole

end Breakpoint.Document
