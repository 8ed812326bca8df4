import Mathlib.Data.List.Induction
import Mathlib.Data.Nat.Digits.Defs
import Breakpoint.Proofs.Document.Reading

/-!
# Documents beyond the limits of the reader

A document whose integers have any length and whose lists and maps have any depth is within the limits
of the reader, or reading it stops on the way. So the reader calls nothing malformed that is a
document. What it reads has a text: a value that was read in some room can be written in that room.
-/

namespace Breakpoint

namespace Value

/-! ## Values with a text -/

/-- The entries of a map have texts if each of their values has one. -/
theorem entriesFault?_eq_none_iff {room : Nat} {entries : List (Text × Value)} :
    entriesFault? room entries = none ↔ ∀ entry ∈ entries, entry.2.textFault? room = none := by
  induction entries with
  | nil => simp [entriesFault?]
  | cons entry rest ih =>
    obtain ⟨name, value⟩ := entry
    simp [entriesFault?, Option.or_eq_none_iff, ih]

mutual

/-- A value that has a text in some room has it in more. -/
theorem textFault?_mono {room more : Nat} (hmore : room ≤ more) :
    (value : Value) → value.textFault? room = none → value.textFault? more = none
  | .null, _ | .bool _, _ | .float _, _ | .text _, _ => rfl
  | .int _, h => h
  | .list items, h => by
    cases room with
    | zero => cases h
    | succ room =>
      obtain ⟨more, rfl⟩ := Nat.exists_eq_add_of_le' (Nat.le_of_add_left_le hmore)
      exact itemsFault?_mono (Nat.le_of_add_le_add_right hmore) items h
  | .dict entries, h => by
    cases room with
    | zero => cases h
    | succ room =>
      obtain ⟨more, rfl⟩ := Nat.exists_eq_add_of_le' (Nat.le_of_add_left_le hmore)
      exact entriesFault?_mono (Nat.le_of_add_le_add_right hmore) entries h

/-- Items that have texts in some room have them in more. -/
theorem itemsFault?_mono {room more : Nat} (hmore : room ≤ more) :
    (items : List Value) → itemsFault? room items = none → itemsFault? more items = none
  | [], _ => rfl
  | item :: rest, h => by
    obtain ⟨hitem, hrest⟩ := Option.or_eq_none_iff.1 h
    exact Option.or_eq_none_iff.2
      ⟨textFault?_mono hmore item hitem, itemsFault?_mono hmore rest hrest⟩

/-- Entries that have texts in some room have them in more. -/
theorem entriesFault?_mono {room more : Nat} (hmore : room ≤ more) :
    (entries : List (Text × Value)) → entriesFault? room entries = none →
      entriesFault? more entries = none
  | [], _ => rfl
  | (_, value) :: rest, h => by
    obtain ⟨hvalue, hrest⟩ := Option.or_eq_none_iff.1 h
    exact Option.or_eq_none_iff.2
      ⟨textFault?_mono hmore value hvalue, entriesFault?_mono hmore rest hrest⟩

end

/-- The values of a map that has a text have one. -/
theorem entriesFault?_of_dict {room : Nat} {entries : List (Text × Value)}
    (h : (Value.dict entries).textFault? room = none) : entriesFault? room entries = none := by
  cases room with
  | zero => cases h
  | succ room => exact entriesFault?_mono (Nat.le_succ room) entries h

/-- The value of a name in a map whose values have texts has one. -/
theorem textFault?_of_get? {room : Nat} {entries : List (Text × Value)} {name : Text} {value : Value}
    (h : entriesFault? room entries = none) (hvalue : (Dict.mk entries).get? name = some value) :
    value.textFault? room = none :=
  entriesFault?_eq_none_iff.1 h _ (Dict.mem_of_get? hvalue)

end Value

namespace Document

open Decimal

variable {text rest blanks document : Text} {room most deep : Nat} {value : Value} {piece : Piece}
  {refusal : Refusal}

/-! ## Documents without limits -/

/-- Where reading a piece begins. -/
def Piece.start : Piece → Start
  | .value _ => .value
  | .items _ => .items
  | .entry _ => .entry
  | .entries _ => .entries

/-- The text is one of the piece within the limits of the reader, or reading it stops on the way. -/
def FitsOrStalls (room : Nat) (text : Text) (piece : Piece) (rest : Text) : Prop :=
  Writes digitLimit room text piece ∨ ∃ refusal, Stalls room piece.start refusal (text ++ rest)

/-- What is made of a piece is within the limits if the piece is, or reading it stops where reading
the piece does. -/
theorem FitsOrStalls.imp {part whole rest more : Text} {inner outer : Piece} {less room : Nat}
    (h : FitsOrStalls less part inner rest)
    (hfits : Writes digitLimit less part inner → Writes digitLimit room whole outer)
    (hstalls : ∀ {refusal}, Stalls less inner.start refusal (part ++ rest) →
      Stalls room outer.start refusal (whole ++ more)) :
    FitsOrStalls room whole outer more := by
  rcases h with hpart | ⟨refusal, hpart⟩
  · exact .inl (hfits hpart)
  · exact .inr ⟨refusal, hstalls hpart⟩

/-- What is written without limits is within those of the reader, or reading it stops on the way. -/
theorem Writes.fitsOrStalls (h : Writes most deep text piece) (room : Nat) (hrest : EndsNumber rest) :
    FitsOrStalls room text piece rest := by
  have hcomma : ∀ rest, EndsNumber (.char ',' :: rest) :=
    IsDelimiter.endsNumber (by decide : IsDelimiter (.char ','))
  have hbracket : ∀ rest, EndsNumber (.char ']' :: rest) :=
    IsDelimiter.endsNumber (by decide : IsDelimiter (.char ']'))
  have hbrace : ∀ rest, EndsNumber (.char '\x7d' :: rest) :=
    IsDelimiter.endsNumber (by decide : IsDelimiter (.char '\x7d'))
  induction h generalizing room rest with
  | word hword => exact .inl (.word hword)
  | number hnumber =>
    rcases hnumber.within_or_beginsLong hrest with hshort | hlong
    · exact .inl (.number hshort)
    · exact .inr ⟨_, .integer hlong⟩
  | negative hnumber =>
    rcases hnumber.within_or_beginsLong hrest with hshort | hlong
    · exact .inl (.negative hshort)
    · exact .inr ⟨_, .negative hlong⟩
  | text hbody => exact .inl (.text hbody)
  | emptyList hblanks =>
    cases room with
    | zero => exact .inr ⟨_, .deepList⟩
    | succ room => exact .inl (.emptyList hblanks)
  | list hblanks _ ih =>
    cases room with
    | zero => exact .inr ⟨_, .deepList⟩
    | succ room =>
      exact (ih room (hbracket rest)).imp (.list hblanks)
        fun hitems => by simpa [Piece.start] using Stalls.list hblanks hitems
  | emptyDict hblanks =>
    cases room with
    | zero => exact .inr ⟨_, .deepDict⟩
    | succ room => exact .inl (.emptyDict hblanks)
  | dict hblanks _ ih =>
    cases room with
    | zero => exact .inr ⟨_, .deepDict⟩
    | succ room =>
      exact (ih room (hbrace rest)).imp (.dict hblanks)
        fun hentries => by simpa [Piece.start] using Stalls.dict hblanks hentries
  | lastItem _ hblanks ih =>
    exact (ih room (hrest.blanks_append hblanks)).imp (.lastItem · hblanks)
      fun hitem => by simpa [Piece.start] using Stalls.item hitem
  | @moreItems _ text before after others _ _ _ hbefore hafter _ ih ihMore =>
    have hnext := (hcomma (after ++ (others ++ rest))).blanks_append hbefore
    rcases ih room hnext with hfits | ⟨refusal, hitem⟩
    · exact (ihMore room hrest).imp (.moreItems hfits hbefore hafter)
        fun hothers => by simpa [Piece.start] using Stalls.laterItem hfits hbefore hafter hothers
    · exact .inr ⟨refusal, by simpa [Piece.start] using Stalls.item hitem⟩
  | entry hname hbefore hafter _ ih =>
    exact (ih room hrest).imp (.entry hname hbefore hafter)
      fun hvalue => by simpa [Piece.start] using Stalls.entry hname hbefore hafter hvalue
  | lastEntry _ hblanks ih =>
    exact (ih room (hrest.blanks_append hblanks)).imp (.lastEntry · hblanks)
      fun hentry => by simpa [Piece.start] using Stalls.firstEntry hentry
  | @moreEntries _ text before after others _ _ _ hbefore hafter _ ih ihMore =>
    have hnext := (hcomma (after ++ (others ++ rest))).blanks_append hbefore
    rcases ih room hnext with hfits | ⟨refusal, hentry⟩
    · exact (ihMore room hrest).imp (.moreEntries hfits hbefore hafter)
        fun hothers => by simpa [Piece.start] using Stalls.laterEntry hfits hbefore hafter hothers
    · exact .inr ⟨refusal, by simpa [Piece.start] using Stalls.firstEntry hentry⟩

/-- A document is one within the limits of the reader, or reading it stops on the way. -/
theorem IsDocument.within_or_isStopped (h : IsDocument document value) (room : Nat) :
    IsDocumentWithin digitLimit room document value ∨ ∃ refusal, IsStopped room refusal document := by
  obtain ⟨most, deep, before, text, after, rfl, hbefore, hafter, hwrites⟩ := h
  rcases hwrites.fitsOrStalls room (endsNumber_of_isBlanks hafter) with hfits | ⟨refusal, hstalls⟩
  · exact .inl ⟨before, text, after, rfl, hbefore, hafter, hfits⟩
  · exact .inr ⟨refusal, before, text ++ after, rfl, hbefore, hstalls⟩

/-- Reading gives a value exactly for a document of this value at which it does not stop. -/
theorem read_eq_ok_iff_isDocument :
    read room document = .ok value ↔
      IsDocument document value ∧ ∀ refusal, ¬ IsStopped room refusal document := by
  constructor
  · intro h
    refine ⟨⟨_, _, read_eq_ok_iff.1 h⟩, ?_⟩
    intro refusal hstopped
    cases h.symm.trans (read_of_isStopped hstopped)
  · rintro ⟨hdocument, haccepted⟩
    rcases hdocument.within_or_isStopped room with hwithin | ⟨refusal, hstopped⟩
    · exact read_of_isDocumentWithin hwithin
    · exact absurd hstopped (haccepted refusal)

/-- A text is malformed exactly if it is no document and reading it does not stop on the way. -/
theorem read_eq_malformed_iff :
    read room document = .error .malformed ↔
      (∀ value, ¬ IsDocument document value) ∧ ∀ refusal, ¬ IsStopped room refusal document := by
  constructor
  · intro h
    have haccepted : ∀ refusal, ¬ IsStopped room refusal document := by
      intro refusal hstopped
      cases h.symm.trans (read_of_isStopped hstopped)
    refine ⟨?_, haccepted⟩
    intro value hdocument
    cases h.symm.trans (read_eq_ok_iff_isDocument.2 ⟨hdocument, haccepted⟩)
  · rintro ⟨hnone, haccepted⟩
    cases hread : read room document with
    | ok value => exact absurd (read_eq_ok_iff_isDocument.1 hread).1 (hnone value)
    | error fault =>
      cases fault with
      | malformed => rfl
      | refused refusal => exact absurd (isStopped_of_read hread) (haccepted refusal)

/-! ## What is read has a text -/

/-- Digits write a number below the power of ten with as many zeros. -/
theorem digitsValue_lt {digits : Text} (h : ∀ c ∈ digits, isAsciiDigit c = true) :
    digitsValue digits < 10 ^ digits.length := by
  induction digits using List.reverseRecOn with
  | nil => decide
  | append_singleton digits c ih =>
    have hshort := ih fun d hd => h d (List.mem_append_left _ hd)
    have hdigit := h c (by simp)
    rw [isAsciiDigit, Bool.and_eq_true, decide_eq_true_eq, decide_eq_true_eq] at hdigit
    rw [digitsValue, List.foldl_append, ← digitsValue, List.length_append, List.length_singleton,
      Nat.pow_succ, List.foldl_cons, List.foldl_nil]
    omega

/-- A whole number is written in digits. -/
theorem IsWhole.forall_isAsciiDigit {whole : Text} (h : IsWhole whole) :
    ∀ c ∈ whole, isAsciiDigit c = true := by
  rcases h with rfl | ⟨hdigits, -⟩
  · decide
  · exact hdigits.2

/-- An integer of so many digits has a text. -/
theorem WritesMagnitude.textFault? {negative : Bool}
    (h : WritesMagnitude digitLimit negative text value) (room : Nat) :
    value.textFault? room = none := by
  cases h with
  | float => rfl
  | int hwhole hmost =>
    have hsome : 0 < text.length := by
      obtain ⟨c, more, rfl, -⟩ := hwhole.exists_cons
      exact Nat.zero_lt_succ _
    have hcount : digitCount (digitsValue text) ≤ text.length :=
      Nat.toDigits_length 10 _ _ hsome (digitsValue_lt hwhole.forall_isAsciiDigit)
    have habs : (signed negative (digitsValue text)).natAbs = digitsValue text := by
      cases negative <;> simp [signed]
    rw [Value.textFault?, habs, if_neg (Nat.not_lt_of_le (Nat.le_trans hcount hmost))]

/-- The values of a piece have texts. -/
def HasText (room : Nat) : Piece → Prop
  | .value value => value.textFault? room = none
  | .items items => Value.itemsFault? room items = none
  | .entry entry => entry.2.textFault? room = none
  | .entries entries => Value.entriesFault? room entries = none

/-- What is written within the limits of the reader has a text. -/
theorem Writes.hasText (h : Writes digitLimit room text piece) : HasText room piece := by
  induction h with
  | word hword => cases hword <;> rfl
  | number hnumber | negative hnumber => exact hnumber.textFault? _
  | text | emptyList | emptyDict => rfl
  | list _ _ ih => exact ih
  | @dict room blanks text entries _ _ ih =>
    -- of several values of one name the map keeps one
    refine Value.entriesFault?_eq_none_iff.2 fun entry hentry => ?_
    exact Value.entriesFault?_eq_none_iff.1 ih entry (Dict.mem_ofList hentry)
  | entry _ _ _ _ ih => exact ih
  | lastItem _ _ ih => exact Option.or_eq_none_iff.2 ⟨ih, rfl⟩
  | lastEntry _ _ ih => exact Option.or_eq_none_iff.2 ⟨ih, rfl⟩
  | moreItems _ _ _ _ ih ihMore => exact Option.or_eq_none_iff.2 ⟨ih, ihMore⟩
  | moreEntries _ _ _ _ ih ihMore => exact Option.or_eq_none_iff.2 ⟨ih, ihMore⟩

/-- A value that was read has a text. -/
theorem textFault?_of_read (h : read room document = .ok value) : value.textFault? room = none := by
  obtain ⟨before, text, after, -, -, -, hwrites⟩ := read_eq_ok_iff.1 h
  exact hwrites.hasText

end Document

end Breakpoint
