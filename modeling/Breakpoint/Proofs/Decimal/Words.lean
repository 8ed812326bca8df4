import Breakpoint.Proofs.Decimal.Doubles
import Breakpoint.Proofs.Text.Digits
import Breakpoint.Proofs.Text.Trimming

/-!
# Texts that write no number

The reader of free text takes one word for no number, in letters of either case, with or without a
sign and with blanks around it. It takes nothing else for no number: what it reads of digits is the
double nearest to a decimal.
-/

namespace Breakpoint.Decimal

open Text

variable {c other : CodePoint} {text core : Text}

/-- A blank that may stand around a number. The ASCII separators may not. -/
def IsMargin (c : CodePoint) : Prop := isBlank c = true ∧ ¬ (0x1C ≤ c.val ∧ c.val ≤ 0x1F)

/-- The signs that a number may have. -/
def signs : List Text := [[], [.char '+'], [.char '-']]

/-- The word for no number. -/
def nanWord : List Char := ['n', 'a', 'n']

/-- The text writes no number: the word for it, after a sign or none, and blanks around it. -/
def WritesNaN (text : Text) : Prop :=
  ∃ before sign word after, text = before ++ (sign ++ word ++ after) ∧ sign ∈ signs ∧
    Spells nanWord word ∧ (∀ c ∈ before, IsMargin c) ∧ ∀ c ∈ after, IsMargin c

/-! ## Signs and letters -/

/-- A sign or a letter. -/
def IsSignOrLetter (c : CodePoint) : Prop := c.val = 0x2B ∨ c.val = 0x2D ∨ IsLetter c

instance : DecidablePred IsSignOrLetter := fun c =>
  inferInstanceAs (Decidable (c.val = 0x2B ∨ c.val = 0x2D ∨ IsLetter c))

/-- Signs and letters lie in these ranges. -/
theorem range_of_isSignOrLetter (h : IsSignOrLetter c) :
    c.val = 0x2B ∨ c.val = 0x2D ∨ 0x41 ≤ c.val ∧ c.val ≤ 0x7A ∧ c.val ≠ 0x5F := by
  rw [IsSignOrLetter, IsLetter] at h
  omega

/-- Neither a sign nor a letter is a blank. -/
theorem isAsciiBlank_of_isSignOrLetter (h : IsSignOrLetter c) : isAsciiBlank c = false := by
  have hrange := range_of_isSignOrLetter h
  simp only [isAsciiBlank, Bool.or_eq_false_iff, beq_eq_false_iff_ne, Bool.and_eq_false_iff,
    decide_eq_false_iff_not]
  omega

/-- Neither a sign nor a letter is a digit. -/
theorem isAsciiDigit_of_isSignOrLetter (h : IsSignOrLetter c) : isAsciiDigit c = false := by
  have hrange := range_of_isSignOrLetter h
  simp only [isAsciiDigit, Bool.and_eq_false_iff, decide_eq_false_iff_not]
  omega

/-- A digit of any script is shown by one of ten characters. -/
theorem digitChar_shown {digit : Nat} (h : digit < 10) :
    isAsciiBlank (.char (Nat.digitChar digit)) = false ∧
      isAsciiDigit (.char (Nat.digitChar digit)) = true := by
  have hall : ∀ digit < 10, isAsciiBlank (.char (Nat.digitChar digit)) = false ∧
      isAsciiDigit (.char (Nat.digitChar digit)) = true := by decide
  exact hall digit h

/-- What is plain is kept, shown as a space, shown as a digit, or kept beyond ASCII. -/
theorem plain_cases (c : CodePoint) :
    c.val < 0x7F ∧ plain c = c ∨ 0x7F ≤ c.val ∧
      (isBlank c = true ∧ plain c = .char ' ' ∨ isBlank c = false ∧
        (isAsciiDigit (plain c) = true ∧ isAsciiBlank (plain c) = false ∨ plain c = c)) := by
  rw [plain]
  split
  · next hascii => exact .inl ⟨hascii, rfl⟩
  · next hwide =>
    refine .inr ⟨by omega, ?_⟩
    split
    · next hblank => exact .inl ⟨hblank, rfl⟩
    · next hblank =>
      refine .inr ⟨by simpa using hblank, ?_⟩
      split
      · next digit hdigit =>
        have hshown := digitChar_shown (digitValue?_lt hdigit)
        exact .inl hshown.symm
      · exact .inr rfl

/-- What is shown as an ASCII blank is a margin. -/
theorem isAsciiBlank_plain_iff : isAsciiBlank (plain c) = true ↔ IsMargin c := by
  rw [IsMargin]
  rcases plain_cases c with ⟨hascii, hplain⟩ | ⟨hwide, ⟨hblank, hplain⟩ | ⟨hblank, hshown⟩⟩
  · rw [hplain]
    simp only [isBlank, isAsciiBlank, Bool.or_eq_true, beq_iff_eq, Bool.and_eq_true,
      decide_eq_true_eq]
    omega
  · rw [hplain]
    exact iff_of_true rfl ⟨hblank, by omega⟩
  · refine iff_of_false ?_ fun h => by simp [hblank] at h
    rcases hshown with ⟨-, hnot⟩ | hplain
    · simp [hnot]
    · rw [hplain]
      exact fun h => by simp [isBlank_of_isAsciiBlank h] at hblank

/-- A sign or a letter is shown for itself only. -/
theorem plain_eq_iff (h : IsSignOrLetter other) : plain c = other ↔ c = other := by
  have hrange := range_of_isSignOrLetter h
  rcases plain_cases c with ⟨-, hplain⟩ | ⟨hwide, ⟨-, hplain⟩ | ⟨-, ⟨hdigit, -⟩ | hplain⟩⟩
  · rw [hplain]
  · refine iff_of_false ?_ (by rintro rfl; omega)
    rw [hplain]
    rintro rfl
    revert hrange
    decide
  · refine iff_of_false ?_ (by rintro rfl; omega)
    rintro rfl
    rw [isAsciiDigit_of_isSignOrLetter h] at hdigit
    cases hdigit
  · rw [hplain]

/-- Only signs and letters are made into signs and letters. -/
theorem map_plain_eq_iff (hcore : ∀ c ∈ core, IsSignOrLetter c) :
    text.map plain = core ↔ text = core := by
  induction core generalizing text with
  | nil => exact List.map_eq_nil_iff
  | cons c core ih =>
    rw [List.forall_mem_cons] at hcore
    cases text with
    | nil => simp
    | cons d text =>
      rw [List.map_cons, List.cons.injEq, List.cons.injEq, plain_eq_iff hcore.1, ih hcore.2]

/-- Only digits are joined. -/
theorem eq_of_joinDigits? (h : joinDigits? text = some core)
    (hdigits : ∀ c ∈ core, isAsciiDigit c = false) : text = core := by
  fun_induction joinDigits? text generalizing core with
  | case1 => simpa using h
  | case2 => cases h
  | case3 c d rest _ hboth ih =>
    obtain ⟨joined, -, rfl⟩ := Option.map_eq_some_iff.1 h
    rw [hdigits c List.mem_cons_self] at hboth
    cases hboth
  | case4 => cases h
  | case5 c rest _ _ ih =>
    obtain ⟨joined, hjoined, rfl⟩ := Option.map_eq_some_iff.1 h
    rw [List.forall_mem_cons] at hdigits
    rw [ih hjoined hdigits.2]

/-- Signs and letters are prepared for reading where they stand between margins. -/
theorem prepare?_eq_some_iff (hcore : ∀ c ∈ core, IsSignOrLetter c) (hne : core ≠ []) :
    prepare? text = some core ↔ ∃ before after, text = before ++ (core ++ after) ∧
      (∀ c ∈ before, IsMargin c) ∧ ∀ c ∈ after, IsMargin c := by
  constructor
  · intro h
    obtain ⟨before, after, hsplit, hbefore, hafter⟩ :=
      exists_dropTrailing_dropWhile isAsciiBlank (text.map plain)
    rw [eq_of_joinDigits? h fun c hc => isAsciiDigit_of_isSignOrLetter (hcore c hc)] at hsplit
    obtain ⟨front, rest, rfl, rfl, hrest⟩ := List.map_eq_append_iff.1 hsplit
    obtain ⟨middle, back, rfl, hmiddle, rfl⟩ := List.map_eq_append_iff.1 hrest
    rw [map_plain_eq_iff hcore] at hmiddle
    rw [List.forall_mem_map] at hbefore hafter
    exact ⟨front, back, by rw [hmiddle], fun c hc => isAsciiBlank_plain_iff.1 (hbefore c hc),
      fun c hc => isAsciiBlank_plain_iff.1 (hafter c hc)⟩
  · rintro ⟨before, after, rfl, hbefore, hafter⟩
    have hunderscore : .char '_' ∉ core := fun hmember =>
      absurd (range_of_isSignOrLetter (hcore _ hmember)) (by decide)
    exact prepare?_of_blanks (fun c hc => isAsciiBlank_plain_iff.2 (hbefore c hc))
      (fun c hc => isAsciiBlank_plain_iff.2 (hafter c hc))
      (fun c hc => ⟨(plain_eq_iff (hcore c hc)).2 rfl, isAsciiBlank_of_isSignOrLetter (hcore c hc)⟩)
      hne hunderscore

/-! ## Words -/

/-- A text spells one word of small letters at most. -/
theorem eq_of_spells {first second : List Char} (hfirst : Spells first text)
    (hsecond : Spells second text) (hfirstLower : first.all Char.isLower = true)
    (hsecondLower : second.all Char.isLower = true) : first = second := by
  have hsame := map_lowerPlain_of_spells hfirst (List.all_eq_true.1 hfirstLower)
  rw [map_lowerPlain_of_spells hsecond (List.all_eq_true.1 hsecondLower)] at hsame
  exact (List.map_injective_iff.2 (fun _ _ => CodePoint.char.inj) hsame).symm

/-- Nothing is left behind a word exactly if the text spells it. -/
theorem stripSpelling_eq_nil_iff {word : List Char} :
    stripSpelling isAsciiSpelling word text = some [] ↔ Spells word text := by
  rw [stripSpelling_iff]
  constructor
  · rintro ⟨spelled, hspells, rfl⟩
    rwa [List.append_nil]
  · exact fun hspells => ⟨text, hspells, (List.append_nil text).symm⟩

/-- Infinity is a number. -/
theorem isNaN_infinity : (1 / 0 : Float).isNaN = false := by decide +kernel

/-- Zero divided by zero is no number. -/
theorem isNaN_zero_div_zero : (0 / 0 : Float).isNaN = true := by decide +kernel

/-- What is read of digits is a number. -/
theorem isNaN_unsigned? {value : Float} (h : unsigned? text = some value) : value.isNaN = false := by
  simp only [unsigned?, Option.ite_none_left_eq_some, Option.map_eq_some_iff] at h
  obtain ⟨-, power, -, rfl⟩ := h
  exact isNaN_nearest _ _

/-- What is read after the sign is no number if it is the word for no number. -/
theorem isNaN_magnitude_iff {magnitude : Float}
    (h : (word? text).orElse (fun _ => unsigned? text) = some magnitude) :
    magnitude.isNaN = true ↔ Spells nanWord text := by
  have hspells : ∀ word : String,
      (stripSpelling isAsciiSpelling word.toList text == some []) = true ↔ Spells word.toList text :=
    fun word => beq_iff_eq.trans stripSpelling_eq_nil_iff
  rw [word?] at h
  dsimp only at h
  split at h
  · next hinfinity =>
    cases h
    rw [Bool.or_eq_true, hspells, hspells] at hinfinity
    rw [isNaN_infinity]
    refine iff_of_false Bool.false_ne_true fun hnan => ?_
    rcases hinfinity with hinf | hinfinity
    · exact absurd (eq_of_spells hnan hinf rfl rfl) (by decide)
    · exact absurd (eq_of_spells hnan hinfinity rfl rfl) (by decide)
  · split at h
    · next hnan =>
      cases h
      exact iff_of_true isNaN_zero_div_zero ((hspells "nan").1 hnan)
    · next hnan =>
      rw [isNaN_unsigned? h]
      exact iff_of_false Bool.false_ne_true fun hword => hnan ((hspells "nan").2 hword)

/-- A letter is no sign. -/
theorem stripSign_of_isLetter (h : IsLetter c) : stripSign (c :: text) = (false, c :: text) := by
  rw [stripSign.eq_def]
  split
  · next hminus =>
    cases hminus
    exact absurd h (by decide)
  · next hplus =>
    cases hplus
    exact absurd h (by decide)
  · rfl

/-- After its sign, a text is the word for no number if it is that word after a sign or none. -/
theorem spells_stripSign_iff : Spells nanWord (stripSign core).2 ↔
    ∃ sign ∈ signs, ∃ word, Spells nanWord word ∧ core = sign ++ word := by
  constructor
  · intro h
    rw [stripSign.eq_def] at h
    split at h
    · exact ⟨[.char '-'], by decide, _, h, rfl⟩
    · exact ⟨[.char '+'], by decide, _, h, rfl⟩
    · exact ⟨[], by decide, _, h, rfl⟩
  · rintro ⟨sign, hsign, word, hword, rfl⟩
    simp only [signs, List.mem_cons, List.not_mem_nil, or_false] at hsign
    rcases hsign with rfl | rfl | rfl
    · cases hword with
      | cons hletter hword =>
        rw [List.nil_append, stripSign_of_isLetter (isLetter_of_isAsciiSpelling rfl hletter)]
        exact .cons hletter hword
    · exact hword
    · exact hword

/-! ## Free text -/

/-- The word for no number and its sign are prepared for reading where they stand between margins. -/
theorem prepare?_nanWord_iff {sign word : Text} (hsign : sign ∈ signs) (hword : Spells nanWord word) :
    prepare? text = some (sign ++ word) ↔ ∃ before after, text = before ++ (sign ++ word ++ after) ∧
      (∀ c ∈ before, IsMargin c) ∧ ∀ c ∈ after, IsMargin c := by
  have hsigns : ∀ sign ∈ signs, ∀ c ∈ sign, IsSignOrLetter c := by decide
  have hletters : ∀ c ∈ word, IsSignOrLetter c :=
    fun c hc => .inr (.inr (isLetter_of_spells hword (List.all_eq_true.1 rfl) c hc))
  apply prepare?_eq_some_iff (List.forall_mem_append.2 ⟨hsigns sign hsign, hletters⟩)
  cases hword
  exact List.append_ne_nil_of_right_ne_nil _ (List.cons_ne_nil _ _)

/-- Free text that is read is no number where it writes none. -/
theorem isNaN_iff_writesNaN {isNegative : Bool} {value : Float}
    (h : signed? text = some (isNegative, value)) : value.isNaN = true ↔ WritesNaN text := by
  simp only [signed?, Option.bind_eq_bind, Option.bind_eq_some_iff] at h
  obtain ⟨core, hcore, magnitude, hmagnitude, h⟩ := h
  cases h
  rw [isNaN_withSign, isNaN_magnitude_iff hmagnitude, spells_stripSign_iff]
  constructor
  · rintro ⟨sign, hsign, word, hword, rfl⟩
    obtain ⟨before, after, htext, hmargins⟩ := (prepare?_nanWord_iff hsign hword).1 hcore
    exact ⟨before, sign, word, after, htext, hsign, hword, hmargins⟩
  · rintro ⟨before, sign, word, after, htext, hsign, hword, hmargins⟩
    have hprepared := (prepare?_nanWord_iff hsign hword).2 ⟨before, after, htext, hmargins⟩
    rw [hcore, Option.some.injEq] at hprepared
    exact ⟨sign, hsign, word, hword, hprepared⟩

end Breakpoint.Decimal
