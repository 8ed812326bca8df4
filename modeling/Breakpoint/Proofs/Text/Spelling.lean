import Mathlib.Data.List.Forall2
import Breakpoint.Text.Letter
import Breakpoint.Text.Lower

/-!
# Words and blanks as they are written

A word may be written in letters of either case, and blanks may be of any kind. Both are plain:
their lower case is found code point by code point, so a text made of them and of ASCII is in
step with its lower case.
-/

namespace Breakpoint.Text

/-- The text writes a word in ASCII letters of either case. -/
def Spells (word : List Char) (text : Text) : Prop :=
  List.Forall₂ (fun letter c => isAsciiSpelling letter c = true) word text

/-- An ASCII letter. -/
def IsLetter (c : CodePoint) : Prop := 65 ≤ c.val ∧ c.val ≤ 90 ∨ 97 ≤ c.val ∧ c.val ≤ 122

instance : DecidablePred IsLetter := fun c =>
  inferInstanceAs (Decidable (65 ≤ c.val ∧ c.val ≤ 90 ∨ 97 ≤ c.val ∧ c.val ≤ 122))

/-- A code point of ASCII text, or a blank. -/
def IsPlain (c : CodePoint) : Prop := c.val < 0x80 ∨ isBlank c = true

/-- The lower case of a plain code point. -/
def lowerPlain : CodePoint → CodePoint
  | .char c => .char (if c.toNat < 0x80 then lowerAscii c else c)
  | .surrogate index => .surrogate index

variable {c : CodePoint} {letter : Char}

/-- The narrow spelling of a letter is a wide one. -/
theorem isWideSpelling_of_isAsciiSpelling (h : isAsciiSpelling letter c = true) :
    isWideSpelling letter c = true := by
  simp [isWideSpelling, h]

/-- The spelling of a word is split off. -/
theorem stripSpelling_of_spells {word : List Char} {text : Text} (h : Spells word text) (rest : Text) :
    stripSpelling isWideSpelling word (text ++ rest) = some rest := by
  rw [Spells] at h
  induction h with
  | nil => rfl
  | cons hletter _ ih =>
    rw [List.cons_append, stripSpelling, if_pos (isWideSpelling_of_isAsciiSpelling hletter)]
    exact ih

/-- A word is split off where it is spelled. -/
theorem stripSpelling_iff {spells : Char → CodePoint → Bool} {word : List Char} {text rest : Text} :
    stripSpelling spells word text = some rest ↔
      ∃ spelled, List.Forall₂ (fun letter c => spells letter c = true) word spelled ∧
        text = spelled ++ rest := by
  induction word generalizing text with
  | nil =>
    constructor
    · intro h
      cases h
      exact ⟨[], .nil, rfl⟩
    · rintro ⟨spelled, hspells, rfl⟩
      cases hspells
      rfl
  | cons letter word ih =>
    constructor
    · intro h
      cases text with
      | nil => cases h
      | cons c text =>
        rw [stripSpelling] at h
        split at h
        · next hletter =>
          obtain ⟨spelled, hspells, rfl⟩ := ih.1 h
          exact ⟨c :: spelled, .cons hletter hspells, rfl⟩
        · cases h
    · rintro ⟨spelled, hspells, rfl⟩
      cases hspells with
      | cons hletter hspells =>
        rw [List.cons_append, stripSpelling, if_pos hletter]
        exact ih.2 ⟨_, hspells, rfl⟩

/-- A small letter is spelled by itself and by its capital. -/
theorem val_of_isAsciiSpelling (h : isAsciiSpelling letter c = true) :
    c = .char letter ∨ letter.isLower = true ∧ c.val + 32 = letter.toNat := by
  simpa [isAsciiSpelling] using h

/-- The small letters stand in a row. -/
theorem toNat_of_isLower (h : letter.isLower = true) : 97 ≤ letter.toNat ∧ letter.toNat ≤ 122 := by
  have hrange : (decide (letter.val ≥ 'a'.val) && decide (letter.val ≤ 'z'.val)) = true := h
  rw [Bool.and_eq_true, decide_eq_true_eq, decide_eq_true_eq] at hrange
  exact hrange

/-- The narrow spelling of a letter is a letter. -/
theorem isLetter_of_isAsciiSpelling (hlower : letter.isLower = true)
    (h : isAsciiSpelling letter c = true) : IsLetter c := by
  have hrange := toNat_of_isLower hlower
  rcases val_of_isAsciiSpelling h with hsame | ⟨-, hcapital⟩
  · subst hsame
    exact .inr hrange
  · exact .inl (by omega)

/-- Every code point of a word of small letters is a letter. -/
theorem isLetter_of_spells {word : List Char} {text : Text} (h : Spells word text)
    (hlower : ∀ letter ∈ word, letter.isLower = true) : ∀ c ∈ text, IsLetter c := by
  rw [Spells] at h
  induction h with
  | nil => simp
  | cons hletter _ ih =>
    rw [List.forall_mem_cons] at hlower ⊢
    exact ⟨isLetter_of_isAsciiSpelling hlower.1 hletter, ih hlower.2⟩

/-- A letter is no blank. -/
theorem isBlank_of_isLetter (h : IsLetter c) : isBlank c = false := by
  rw [IsLetter] at h
  simp only [isBlank, isAsciiBlank, Bool.or_eq_false_iff, beq_eq_false_iff_ne, Bool.and_eq_false_iff,
    decide_eq_false_iff_not]
  omega

/-- A letter is plain. -/
theorem isPlain_of_isLetter (h : IsLetter c) : IsPlain c := by
  rw [IsLetter] at h
  exact .inl (by omega)

/-! ## Lower case -/

/-- The blanks beyond ASCII. -/
def wideBlanks : List Nat :=
  [0x85, 0xA0, 0x1680, 0x2000, 0x2001, 0x2002, 0x2003, 0x2004, 0x2005, 0x2006, 0x2007, 0x2008,
    0x2009, 0x200A, 0x2028, 0x2029, 0x202F, 0x205F, 0x3000]

/-- The blanks outside ASCII text are those listed. -/
theorem mem_wideBlanks (hblank : isBlank c = true) (hwide : ¬ c.val < 0x80) :
    c.val ∈ wideBlanks := by
  simp only [isBlank, isAsciiBlank, Bool.or_eq_true, beq_iff_eq, Bool.and_eq_true,
    decide_eq_true_eq] at hblank
  simp only [wideBlanks, List.mem_cons, List.not_mem_nil]
  omega

/-- Blanks have no case. -/
theorem lowerBeyondAscii_wideBlanks :
    ∀ code ∈ wideBlanks, lowerBeyondAscii (Char.ofNat code) = Char.ofNat code ∧
      Char.ofNat code ≠ 'İ' ∧ Char.ofNat code ≠ 'Σ' := by
  decide +kernel

/-- A plain code point has one code point as its lower case, wherever it stands. -/
theorem lowerAt_of_isPlain (h : IsPlain c) (before after : Text) :
    lowerAt before c after = [lowerPlain c] := by
  cases c with
  | surrogate index => rfl
  | char c =>
    by_cases hascii : c.toNat < 0x80
    · simp only [lowerAt, lowerPlain, if_pos hascii]
    · have hmember : c.toNat ∈ wideBlanks := mem_wideBlanks (h.resolve_left hascii) hascii
      obtain ⟨hlower, hdotted, hsigma⟩ := lowerBeyondAscii_wideBlanks c.toNat hmember
      rw [Char.ofNat_toNat] at hlower hdotted hsigma
      simp only [lowerAt, lowerPlain, if_neg hascii, if_neg hdotted, if_neg hsigma, hlower]

/-- The lower case of a plain text is found code point by code point. -/
theorem lowerAfter_of_isPlain {text : Text} (h : ∀ c ∈ text, IsPlain c) (before : Text) :
    lowerAfter before text = text.map lowerPlain := by
  induction text generalizing before with
  | nil => rfl
  | cons c text ih =>
    rw [List.forall_mem_cons] at h
    rw [lowerAfter, lowerAt_of_isPlain h.1, ih h.2]
    rfl

/-- Plain text has the lower case of each of its code points. -/
theorem lower_of_isPlain {text : Text} (h : ∀ c ∈ text, IsPlain c) :
    lower text = text.map lowerPlain :=
  lowerAfter_of_isPlain h []

/-- A code point that is no capital letter is its own lower case. -/
theorem lowerPlain_of_not_capital (h : ¬ (65 ≤ c.val ∧ c.val ≤ 90)) : lowerPlain c = c := by
  cases c with
  | surrogate index => rfl
  | char c =>
    have hcapital : ¬ ('A' ≤ c ∧ c ≤ 'Z') := h
    rw [lowerPlain, lowerAscii, if_neg hcapital, ite_self]

/-- A blank has no lower case of its own. -/
theorem lowerPlain_of_isBlank (h : isBlank c = true) : lowerPlain c = c := by
  apply lowerPlain_of_not_capital
  intro hcapital
  rw [isBlank_of_isLetter (.inl hcapital)] at h
  cases h

/-- The lower case of a spelled letter is the letter. -/
theorem lowerPlain_of_isAsciiSpelling (hlower : letter.isLower = true)
    (h : isAsciiSpelling letter c = true) : lowerPlain c = .char letter := by
  have hrange := toNat_of_isLower hlower
  rcases val_of_isAsciiSpelling h with hsame | ⟨-, hcapital⟩
  · subst hsame
    apply lowerPlain_of_not_capital
    show ¬ (65 ≤ letter.toNat ∧ letter.toNat ≤ 90)
    omega
  · cases c with
    | surrogate index =>
      have hval : 0xD800 + index.val + 32 = letter.toNat := hcapital
      omega
    | char c =>
      have hval : c.toNat + 32 = letter.toNat := hcapital
      have hcapital : 'A' ≤ c ∧ c ≤ 'Z' := by
        show 65 ≤ c.toNat ∧ c.toNat ≤ 90
        omega
      rw [lowerPlain, if_pos (by omega), lowerAscii, if_pos hcapital, hval, Char.ofNat_toNat]

/-- The lower case of a spelled word is the word. -/
theorem map_lowerPlain_of_spells {word : List Char} {text : Text} (h : Spells word text)
    (hlower : ∀ letter ∈ word, letter.isLower = true) :
    text.map lowerPlain = word.map .char := by
  rw [Spells] at h
  induction h with
  | nil => rfl
  | cons hletter _ ih =>
    rw [List.forall_mem_cons] at hlower
    rw [List.map_cons, List.map_cons, lowerPlain_of_isAsciiSpelling hlower.1 hletter, ih hlower.2]

/-- The spellings of a letter outside ASCII are no ASCII letters. -/
theorem isAsciiSpelling_of_isWideSpelling (hletter : IsLetter c)
    (h : isWideSpelling letter c = true) : isAsciiSpelling letter c = true := by
  have hwide : ∀ other ∈ [CodePoint.char 'İ', .char 'ı', .char 'ſ', .char '\u212a'],
      ¬ IsLetter other := by decide
  have hother : ∀ other ∈ [CodePoint.char 'İ', .char 'ı', .char 'ſ', .char '\u212a'], c ≠ other := by
    intro other hmember hsame
    exact hwide other hmember (hsame ▸ hletter)
  simp only [List.forall_mem_cons] at hother
  simpa [isWideSpelling, hother] using h

/-- An ASCII letter spells one small letter only. -/
theorem eq_of_isWideSpelling {other : Char} (hlower : letter.isLower = true)
    (hotherLower : other.isLower = true) (h : isAsciiSpelling letter c = true)
    (hother : isWideSpelling other c = true) : other = letter := by
  have hascii := isAsciiSpelling_of_isWideSpelling (isLetter_of_isAsciiSpelling hlower h) hother
  have hsame := lowerPlain_of_isAsciiSpelling hotherLower hascii
  rw [lowerPlain_of_isAsciiSpelling hlower h] at hsame
  cases hsame
  rfl

/-- A word that begins with another letter is not split off. -/
theorem stripSpelling_eq_none {text : Text} {other : Char} (hlower : letter.isLower = true)
    (hotherLower : other.isLower = true) (hne : other ≠ letter)
    (h : isAsciiSpelling letter c = true) (word : List Char) :
    stripSpelling isWideSpelling (other :: word) (c :: text) = none := by
  have hspelling : ¬ isWideSpelling other c = true :=
    fun hother => hne (eq_of_isWideSpelling hlower hotherLower h hother)
  rw [stripSpelling, if_neg hspelling]

/-! ## Blanks around a text -/

section Test

variable {test : CodePoint → Bool} {before core after rest : Text}

/-- What does not hold a mark differs from it everywhere. -/
theorem bne_of_notMem {mark : CodePoint} (h : mark ∉ before) : ∀ c ∈ before, (c != mark) = true := by
  intro c hc
  rw [bne_iff_ne]
  exact fun hsame => h (hsame ▸ hc)

/-- What passes the test before a text is dropped. -/
theorem dropWhile_append_of_head (hbefore : ∀ c ∈ before, test c = true)
    (hrest : ∀ c, rest.head? = some c → test c = false) : (before ++ rest).dropWhile test = rest := by
  rw [List.dropWhile_append_of_pos hbefore]
  cases rest with
  | nil => rfl
  | cons c rest => rw [List.dropWhile_cons_of_neg (by simp [hrest c rfl])]

/-- What passes the test is dropped from both ends, and nothing else. -/
theorem dropTrailing_dropWhile (hbefore : ∀ c ∈ before, test c = true)
    (hafter : ∀ c ∈ after, test c = true) (hne : core ≠ [])
    (hhead : ∀ c, core.head? = some c → test c = false)
    (hlast : ∀ c, core.getLast? = some c → test c = false) :
    dropTrailing test ((before ++ core ++ after).dropWhile test) = core := by
  have hstart : ∀ c, (core ++ after).head? = some c → test c = false := by
    rw [List.head?_append_of_ne_nil _ hne]
    exact hhead
  have hend : ∀ c, core.reverse.head? = some c → test c = false := by
    rw [List.head?_reverse]
    exact hlast
  rw [List.append_assoc, dropWhile_append_of_head hbefore hstart, dropTrailing, List.reverse_append,
    dropWhile_append_of_head (fun c hc => hafter c (List.mem_reverse.1 hc)) hend,
    List.reverse_reverse]

end Test

/-- No blank stands at the place that `edge?` looks at. -/
def EndsBlankless (edge? : Option CodePoint) : Prop := ∀ c, edge? = some c → isBlank c = false

/-- Blanks before a text are dropped. -/
theorem dropWhile_isBlank {blanks rest : Text} (hblanks : ∀ c ∈ blanks, isBlank c = true)
    (hrest : EndsBlankless rest.head?) : (blanks ++ rest).dropWhile isBlank = rest :=
  dropWhile_append_of_head hblanks hrest

/-- Trimming takes the blanks off both ends and nothing else. -/
theorem trim_of_blanks {before core after : Text} (hbefore : ∀ c ∈ before, isBlank c = true)
    (hafter : ∀ c ∈ after, isBlank c = true) (hne : core ≠ []) (hhead : EndsBlankless core.head?)
    (hlast : EndsBlankless core.getLast?) : trim (before ++ core ++ after) = core :=
  dropTrailing_dropWhile hbefore hafter hne hhead hlast

end Breakpoint.Text
