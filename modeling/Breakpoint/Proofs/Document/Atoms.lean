import Breakpoint.Proofs.Document.Numbers

/-!
# Words, numbers and the blanks between

Blanks are skipped as far as they go. What is taken for a word or a number is one, and words are read
whole; no word begins like a number.
-/

namespace Breakpoint.Document

open Decimal

variable {text rest blanks : Text}

/-! ## Blanks -/

/-- Skipping blanks is dropping them from the front. -/
theorem skipBlanks_eq (text : Text) : skipBlanks text = text.dropWhile isBlank := rfl

/-- What is skipped are blanks. -/
theorem exists_skipBlanks (text : Text) : ∃ blanks, text = blanks ++ skipBlanks text ∧ IsBlanks blanks :=
  ⟨text.takeWhile isBlank, (List.takeWhile_append_dropWhile).symm,
    fun _ hc => List.mem_takeWhile_imp hc⟩

/-- Blanks are skipped as far as they go. -/
theorem skipBlanks_append (hblanks : IsBlanks blanks)
    (hrest : ∀ c, rest.head? = some c → isBlank c = false) : skipBlanks (blanks ++ rest) = rest := by
  rw [skipBlanks_eq, List.dropWhile_append_of_pos hblanks]
  cases rest with
  | nil => rfl
  | cons c rest => exact List.dropWhile_cons_of_neg (ne_true_of_eq_false (hrest c rfl))

/-- A comma, or the end of a list or of a map. -/
def IsDelimiter (c : CodePoint) : Prop := c = .char ',' ∨ c = .char ']' ∨ c = .char '\x7d'

instance (c : CodePoint) : Decidable (IsDelimiter c) :=
  inferInstanceAs (Decidable (c = .char ',' ∨ c = .char ']' ∨ c = .char '\x7d'))

/-- The text begins with something that is neither a blank nor a delimiter. -/
def Opens (text : Text) : Prop :=
  ∃ c more, text = c :: more ∧ isBlank c = false ∧ ¬ IsDelimiter c

/-- What begins without a blank does so with more after it. -/
theorem Opens.append (h : Opens text) (rest : Text) : Opens (text ++ rest) := by
  obtain ⟨c, more, rfl, hc⟩ := h
  exact ⟨c, more ++ rest, rfl, hc⟩

/-- Blanks are skipped up to what begins without one. -/
theorem skipBlanks_opens (hblanks : IsBlanks blanks) (h : Opens text) :
    skipBlanks (blanks ++ text) = text := by
  obtain ⟨c, more, rfl, hc, -⟩ := h
  apply skipBlanks_append hblanks
  intro d hd
  cases hd
  exact hc

/-! ## Words -/

/-- The words that the reader knows, in its order. -/
def words : List (Text × Value) :=
  [("null", .null), ("true", .bool true), ("false", .bool false), ("NaN", .float (0 / 0)),
   ("Infinity", .float (1 / 0)), ("-Infinity", .float (-(1 / 0)))]

/-- The listed words are those of the grammar. -/
theorem mem_words_iff {word : Text} {value : Value} : (word, value) ∈ words ↔ WritesWord word value := by
  constructor
  · intro h
    simp only [words, List.mem_cons, Prod.mk.injEq, List.not_mem_nil, or_false] at h
    rcases h with ⟨rfl, rfl⟩ | ⟨rfl, rfl⟩ | ⟨rfl, rfl⟩ | ⟨rfl, rfl⟩ | ⟨rfl, rfl⟩ | ⟨rfl, rfl⟩
    · exact .null
    · exact .yes
    · exact .no
    · exact .notANumber
    · exact .infinity
    · exact .minusInfinity
  · intro h
    cases h <;> simp [words]

/-- The word at the start of a text, with its value. -/
def readWord (text : Text) : Option (Value × Text) :=
  words.findSome? fun (word, value) => (stripWord word text).map (value, ·)

/-- A word that was taken off was there. -/
theorem eq_append_of_stripWord {word : Text} (h : stripWord word text = some rest) :
    text = word ++ rest := by
  induction word generalizing text with
  | nil =>
    cases h
    rfl
  | cons w word ih =>
    cases text with
    | nil => cases h
    | cons c text =>
      rw [stripWord] at h
      split at h
      · next hsame => rw [hsame, List.cons_append, ← ih h]
      · cases h

/-- What is read as a word begins with a word of this value. -/
theorem exists_of_readWord {value : Value} (h : readWord text = some (value, rest)) :
    ∃ word, text = word ++ rest ∧ WritesWord word value := by
  obtain ⟨⟨word, other⟩, hword, hstrip⟩ := List.exists_of_findSome?_eq_some h
  obtain ⟨after, hafter, hpair⟩ := Option.map_eq_some_iff.1 hstrip
  cases hpair
  exact ⟨word, eq_append_of_stripWord hafter, mem_words_iff.1 hword⟩

/-- A word is read whole. -/
theorem readWord_append {word : Text} {value : Value} (h : WritesWord word value) (rest : Text) :
    readWord (word ++ rest) = some (value, rest) := by
  cases h <;> rfl

/-- A text that no word begins has no word to read. -/
theorem readWord_eq_none
    (h : ∀ {word : Text} {value : Value}, WritesWord word value → stripWord word text = none) :
    readWord text = none := by
  rw [readWord, List.findSome?_eq_none_iff]
  rintro ⟨word, value⟩ hword
  exact Option.map_eq_none_iff.2 (h (mem_words_iff.1 hword))

/-- A word that begins otherwise than the text is not taken off. -/
theorem stripWord_of_ne {w c : CodePoint} {word : Text} (h : w ≠ c) (text : Text) :
    stripWord (w :: word) (c :: text) = none := if_neg h

/-- Where a number begins, no word does. -/
theorem readWord_of_digit {c : CodePoint} (hc : isAsciiDigit c = true) (rest : Text) :
    readWord (c :: rest) = none ∧ readWord (.char '-' :: c :: rest) = none := by
  have hne : ∀ {w : CodePoint}, isAsciiDigit w = false → w ≠ c := by
    rintro w hw rfl
    cases hw.symm.trans hc
  constructor
  · apply readWord_eq_none
    intro word value hword
    cases hword <;> exact stripWord_of_ne (hne (by decide)) rest
  · apply readWord_eq_none
    intro word value hword
    cases hword with
    | minusInfinity => exact (if_pos rfl).trans (stripWord_of_ne (hne (by decide)) rest)
    | _ => exact stripWord_of_ne (by decide) (c :: rest)

/-! ## Words and numbers -/

/-- A number with its sign, as the reader takes it. -/
def readNumber : Text → Except ReadFault (Value × Text)
  | .char '-' :: rest => readMagnitude true rest
  | text => readMagnitude false text

/-- A number without a minus sign is its magnitude. -/
theorem readNumber_of_ne (h : ∀ rest, text ≠ .char '-' :: rest) :
    readNumber text = readMagnitude false text := by
  rw [readNumber.eq_def]
  split
  · exact absurd rfl (h _)
  · rfl

/-- A value without members is a word, or else a number. -/
theorem readAtom_eq (text : Text) :
    readAtom text =
      match readWord text with
      | some found => .ok found
      | none => readNumber text := by
  unfold readAtom
  change (match readWord text with | some found => _ | none => _) = _
  cases readWord text with
  | some found => rfl
  | none =>
    dsimp only
    split
    · rfl
    · next hminus => exact (readNumber_of_ne hminus).symm

/-- A whole number begins with a digit. -/
theorem IsWhole.exists_cons {whole : Text} (h : IsWhole whole) :
    ∃ c more, whole = c :: more ∧ isAsciiDigit c = true := by
  rcases h with rfl | ⟨⟨hsome, hdigits⟩, -⟩
  · exact ⟨_, _, rfl, by decide⟩
  · obtain ⟨c, more, rfl⟩ := List.exists_cons_of_ne_nil hsome
    exact ⟨c, more, rfl, hdigits c List.mem_cons_self⟩

/-- What writes a magnitude begins with a digit. -/
theorem WritesMagnitude.exists_cons {most : Nat} {negative : Bool} {value : Value}
    (h : WritesMagnitude most negative text value) :
    ∃ c more, text = c :: more ∧ isAsciiDigit c = true := by
  cases h with
  | int hwhole => exact hwhole.exists_cons
  | float hwhole =>
    obtain ⟨c, more, rfl, hc⟩ := hwhole.exists_cons
    exact ⟨c, _, rfl, hc⟩

/-- A text that begins a long integer begins with a digit. -/
theorem BeginsLong.exists_cons (h : BeginsLong text) :
    ∃ c more, text = c :: more ∧ isAsciiDigit c = true := by
  obtain ⟨whole, rest, rfl, hwhole, -⟩ := h
  obtain ⟨c, more, rfl, hc⟩ := hwhole.exists_cons
  exact ⟨c, more ++ rest, rfl, hc⟩

/-- A digit begins a number, with a minus before it or without. -/
theorem readAtom_of_digit {c : CodePoint} (hc : isAsciiDigit c = true) (rest : Text) :
    readAtom (c :: rest) = readMagnitude false (c :: rest) ∧
      readAtom (.char '-' :: c :: rest) = readMagnitude true (c :: rest) := by
  obtain ⟨hword, hminus⟩ := readWord_of_digit hc rest
  constructor
  · rw [readAtom_eq, hword]
    apply readNumber_of_ne
    rintro rest heq
    cases heq
    cases hc
  · rw [readAtom_eq, hminus]
    rfl

/-- The text is one of a value, within the limits of the reader. -/
abbrev WritesValue (room : Nat) (text : Text) (value : Value) : Prop :=
  Writes digitLimit room text (.value value)

/-- What is taken for a word or a number is one. -/
theorem readAtom_explains (room : Nat) (text : Text) :
    Explains (WritesValue room) (Stalls room .value) text (readAtom text) := by
  rw [readAtom_eq]
  split
  · next found hword =>
    obtain ⟨value, rest⟩ := found
    obtain ⟨word, rfl, hwrites⟩ := exists_of_readWord hword
    exact ⟨word, rfl, .word hwrites⟩
  · next hword =>
    rw [readNumber.eq_def]
    split
    · next rest =>
      refine (readMagnitude_explains true rest).behind [.char '-'] Writes.negative ?_
      rintro _ ⟨rfl, hlong⟩
      exact .negative hlong
    · refine (readMagnitude_explains false text).behind [] Writes.number ?_
      rintro _ ⟨rfl, hlong⟩
      exact .integer hlong

/-! ## How words and numbers begin -/

/-- A word or a number begins so. -/
def isAtomHead (c : CodePoint) : Bool := isAsciiDigit c || ("-ntfNI" : Text).contains c

/-- A word begins like a value without members. -/
theorem WritesWord.exists_cons {word : Text} {value : Value} (h : WritesWord word value) :
    ∃ c more, word = c :: more ∧ isAtomHead c = true := by
  cases h <;> exact ⟨_, _, rfl, by decide⟩

/-- A digit may begin a value without members. -/
theorem isAtomHead_of_digit {c : CodePoint} (h : isAsciiDigit c = true) : isAtomHead c = true := by
  rw [isAtomHead, h, Bool.true_or]

/-- No value without members begins with a blank. -/
theorem isBlank_of_isAtomHead {c : CodePoint} (h : isAtomHead c = true) : isBlank c = false := by
  rw [isAtomHead, Bool.or_eq_true] at h
  rcases h with h | h
  · rw [isAsciiDigit, Bool.and_eq_true, decide_eq_true_eq, decide_eq_true_eq] at h
    rw [isBlank, Bool.or_eq_false_iff, Bool.or_eq_false_iff, Bool.or_eq_false_iff, beq_eq_false_iff_ne,
      beq_eq_false_iff_ne, beq_eq_false_iff_ne, beq_eq_false_iff_ne]
    omega
  · have hletters : ∀ c ∈ ("-ntfNI" : Text), isBlank c = false := by decide
    exact hletters c (List.contains_iff_mem.1 h)

/-- What begins like a value without members begins without a blank. -/
theorem opens_of_isAtomHead {c : CodePoint} (h : isAtomHead c = true) (more : Text) :
    Opens (c :: more) := by
  refine ⟨c, more, rfl, isBlank_of_isAtomHead h, ?_⟩
  rintro (rfl | rfl | rfl) <;> cases h

end Breakpoint.Document
