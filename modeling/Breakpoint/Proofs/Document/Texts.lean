import Breakpoint.Proofs.Document.Numbers

/-!
# Quoted texts are read as they are written

The reader of a quoted text goes on to the first quote that is not escaped. What it takes up to there
has the form of a quoted text and tells what the reader has made of it, and nothing of this form is
refused.
-/

namespace Breakpoint.Document

variable {text rest : Text}

/-! ## Code units -/

/-- The code unit of four digits. -/
def fourDigits? (a b c d : CodePoint) : Option Nat := do
  let a ← hexValue? a
  let b ← hexValue? b
  let c ← hexValue? c
  let d ← hexValue? d
  return ((a * 16 + b) * 16 + c) * 16 + d

/-- Four characters are read as one unit. -/
theorem hexUnit?_cons (a b c d : CodePoint) (rest : Text) :
    hexUnit? (a :: b :: c :: d :: rest) = (fourDigits? a b c d).map (·, rest) := by
  simp only [hexUnit?, fourDigits?]
  cases hexValue? a <;> cases hexValue? b <;> cases hexValue? c <;> cases hexValue? d <;> rfl

/-- Whatever follows, a code unit is four digits. -/
theorem hexUnit?_eq_some_iff {unit : Nat} :
    hexUnit? text = some (unit, rest) ↔ ∃ a b c d, text = a :: b :: c :: d :: rest ∧
      fourDigits? a b c d = some unit := by
  constructor
  · intro h
    match text, h with
    | a :: b :: c :: d :: after, h =>
      rw [hexUnit?_cons, Option.map_eq_some_iff] at h
      obtain ⟨found, hfound, hpair⟩ := h
      cases hpair
      exact ⟨a, b, c, d, rfl, hfound⟩
  · rintro ⟨a, b, c, d, rfl, hunit⟩
    rw [hexUnit?_cons, hunit]
    rfl

/-- A code unit is read whole, and what is read as one is one. -/
theorem hexUnit?_iff {unit : Nat} :
    hexUnit? text = some (unit, rest) ↔ ∃ digits, text = digits ++ rest ∧ WritesUnit digits unit := by
  constructor
  · intro h
    obtain ⟨a, b, c, d, rfl, hunit⟩ := hexUnit?_eq_some_iff.1 h
    exact ⟨[a, b, c, d], rfl, hexUnit?_eq_some_iff.2 ⟨a, b, c, d, rfl, hunit⟩⟩
  · rintro ⟨digits, rfl, hdigits⟩
    obtain ⟨a, b, c, d, rfl, hunit⟩ := hexUnit?_eq_some_iff.1 hdigits
    exact hexUnit?_eq_some_iff.2 ⟨a, b, c, d, rfl, hunit⟩

/-- A high surrogate is no low one. -/
theorem not_isLow_of_isHigh {unit : Nat} (h : IsHigh unit) : ¬ IsLow unit := by
  rw [IsHigh] at h
  rw [IsLow]
  omega

/-! ## Escapes by code units -/

section Escapes

variable {digits : Text} {unit : Nat}

/-- A unit that is no first half of a surrogate pair stands for itself. -/
theorem unicodeEscape?_of_not_isHigh (hunit : WritesUnit digits unit) (hhigh : ¬ IsHigh unit) :
    unicodeEscape? (digits ++ rest) = some (.ofNat unit, rest) := by
  have hread : hexUnit? (digits ++ rest) = some (unit, rest) := hexUnit?_iff.2 ⟨digits, rfl, hunit⟩
  rw [IsHigh] at hhigh
  simp only [unicodeEscape?, hread, Option.bind_eq_bind, Option.bind_some, if_neg hhigh]
  rfl

/-- A first half stands for itself where no escape by a unit follows. -/
theorem unicodeEscape?_of_other (hunit : WritesUnit digits unit)
    (hother : ∀ more, rest ≠ .char '\x5c' :: .char 'u' :: more) :
    unicodeEscape? (digits ++ rest) = some (.ofNat unit, rest) := by
  have hread : hexUnit? (digits ++ rest) = some (unit, rest) := hexUnit?_iff.2 ⟨digits, rfl, hunit⟩
  simp only [unicodeEscape?, hread, Option.bind_eq_bind, Option.bind_some]
  split <;> rfl

/-- A first half and a second half after it are one character. -/
theorem unicodeEscape?_pair {second more : Text} {low : Nat} (hunit : WritesUnit digits unit)
    (hhigh : IsHigh unit) (hsecond : WritesUnit second low) (hlow : IsLow low) :
    unicodeEscape? (digits ++ .char '\x5c' :: .char 'u' :: (second ++ more)) =
      some (pairOf unit low, more) := by
  have hread : ∀ rest, hexUnit? (digits ++ rest) = some (unit, rest) :=
    fun rest => hexUnit?_iff.2 ⟨digits, rfl, hunit⟩
  have hnext : hexUnit? (second ++ more) = some (low, more) := hexUnit?_iff.2 ⟨second, rfl, hsecond⟩
  rw [IsHigh] at hhigh
  rw [IsLow] at hlow
  simp only [unicodeEscape?, hread, Option.bind_eq_bind, Option.bind_some, if_pos hhigh, hnext,
    if_pos hlow]
  rfl

/-- A first half stands for itself where the unit after it is no second half. -/
theorem unicodeEscape?_of_not_isLow {second more : Text} {low : Nat} (hunit : WritesUnit digits unit)
    (hsecond : WritesUnit second low) (hlow : ¬ IsLow low) :
    unicodeEscape? (digits ++ .char '\x5c' :: .char 'u' :: (second ++ more)) =
      some (.ofNat unit, .char '\x5c' :: .char 'u' :: (second ++ more)) := by
  have hread : ∀ rest, hexUnit? (digits ++ rest) = some (unit, rest) :=
    fun rest => hexUnit?_iff.2 ⟨digits, rfl, hunit⟩
  have hnext : hexUnit? (second ++ more) = some (low, more) := hexUnit?_iff.2 ⟨second, rfl, hsecond⟩
  rw [IsLow] at hlow
  simp only [unicodeEscape?, hread, Option.bind_eq_bind, Option.bind_some, hnext, if_neg hlow]
  split <;> rfl

/-- What is read as an escape by a unit is one unit, or two that are a pair. -/
theorem exists_of_unicodeEscape? {c : CodePoint} (h : unicodeEscape? text = some (c, rest)) :
    (∃ digits unit, text = digits ++ rest ∧ WritesUnit digits unit ∧ c = .ofNat unit ∧
      (IsHigh unit → ¬ BeginsLow rest)) ∨
    ∃ digits high second low, text = digits ++ .char '\x5c' :: .char 'u' :: (second ++ rest) ∧
      WritesUnit digits high ∧ IsHigh high ∧ WritesUnit second low ∧ IsLow low ∧
      c = pairOf high low := by
  cases hread : hexUnit? text with
  | none =>
    simp only [unicodeEscape?, hread] at h
    cases h
  | some found =>
    obtain ⟨unit, after⟩ := found
    obtain ⟨digits, rfl, hunit⟩ := hexUnit?_iff.1 hread
    -- the unit is alone, so nothing after it is taken
    have halone : (IsHigh unit → ¬ BeginsLow after) →
        unicodeEscape? (digits ++ after) = some (.ofNat unit, after) →
          ∃ digits' unit', digits ++ after = digits' ++ rest ∧ WritesUnit digits' unit' ∧
            c = .ofNat unit' ∧ (IsHigh unit' → ¬ BeginsLow rest) := by
      intro hnext halone
      cases halone.symm.trans h
      exact ⟨digits, unit, rfl, hunit, rfl, hnext⟩
    by_cases hescape : ∃ more, after = .char '\x5c' :: .char 'u' :: more
    · obtain ⟨more, rfl⟩ := hescape
      by_cases hhigh : IsHigh unit
      · cases hnext : hexUnit? more with
        | none =>
          rw [IsHigh] at hhigh
          simp only [unicodeEscape?, hread, Option.bind_eq_bind, Option.bind_some, if_pos hhigh,
            hnext] at h
          cases h
        | some found =>
          obtain ⟨low, last⟩ := found
          obtain ⟨second, rfl, hsecond⟩ := hexUnit?_iff.1 hnext
          by_cases hlow : IsLow low
          · right
            have hpair := Option.some.inj ((unicodeEscape?_pair hunit hhigh hsecond hlow).symm.trans h)
            obtain ⟨rfl, rfl⟩ := Prod.mk.inj hpair
            exact ⟨digits, unit, second, low, rfl, hunit, hhigh, hsecond, hlow, rfl⟩
          · left
            refine halone ?_ (unicodeEscape?_of_not_isLow hunit hsecond hlow)
            rintro - ⟨other, same, tail, heq, hother, hlowOther⟩
            simp only [List.cons.injEq, true_and] at heq
            have hsame := hexUnit?_iff.2 ⟨other, heq, hother⟩
            cases hnext.symm.trans hsame
            exact hlow hlowOther
      · left
        exact halone (fun hunitHigh => absurd hunitHigh hhigh)
          (unicodeEscape?_of_not_isHigh hunit hhigh)
    · left
      have hother : ∀ more, after ≠ .char '\x5c' :: .char 'u' :: more :=
        fun more heq => hescape ⟨more, heq⟩
      refine halone ?_ (unicodeEscape?_of_other hunit hother)
      rintro - ⟨second, low, more, heq, -⟩
      exact hother _ heq

/-- In a quoted text a unit that is alone stands for itself. -/
theorem unicodeEscape?_alone {body said : Text} (hunit : WritesUnit digits unit)
    (halone : IsHigh unit → ¬ BeginsLow body) (hbody : WritesText body said) (rest : Text) :
    unicodeEscape? (digits ++ (body ++ .char '\x22' :: rest)) =
      some (.ofNat unit, body ++ .char '\x22' :: rest) := by
  by_cases hhigh : IsHigh unit
  · have hafter := halone hhigh
    cases hbody with
    | done => exact unicodeEscape?_of_other hunit (by simp)
    | plain hcontrol hquote hescape hbody => exact unicodeEscape?_of_other hunit (by simp [hescape])
    | letter hletter hbody =>
      apply unicodeEscape?_of_other hunit
      rintro more heq
      cases heq
      cases hletter
    | unit hnext hlast hbody =>
      simp only [List.cons_append, List.append_assoc]
      exact unicodeEscape?_of_not_isLow hunit hnext fun hlow => hafter ⟨_, _, _, rfl, hnext, hlow⟩
    | pair hfirst hhighNext hsecond hlow hbody =>
      simp only [List.cons_append, List.append_assoc]
      exact unicodeEscape?_of_not_isLow hunit hfirst (not_isLow_of_isHigh hhighNext)
  · exact unicodeEscape?_of_not_isHigh hunit hhigh

end Escapes

/-! ## Texts -/

/-- What begins with a low surrogate does so with more after it. -/
theorem BeginsLow.append (h : BeginsLow text) (rest : Text) : BeginsLow (text ++ rest) := by
  obtain ⟨second, low, more, rfl, hsecond, hlow⟩ := h
  exact ⟨second, low, more ++ rest, by simp, hsecond, hlow⟩

section Reader

variable {fuel : Nat} {done : Text} {c : CodePoint}

/-- A character that needs no escape stands for itself. -/
theorem readText_plain (hcontrol : 0x20 ≤ c.val) (hquote : c ≠ .char '\x22')
    (hescape : c ≠ .char '\x5c') :
    readText (fuel + 1) done (c :: rest) = readText fuel (c :: done) rest := by
  have hplain : ¬ ((decide (c.val < 0x20) || c == .char '\x5c') = true) := by
    rw [Bool.or_eq_true, not_or, decide_eq_true_eq, Nat.not_lt, beq_iff_eq]
    exact ⟨hcontrol, hescape⟩
  rw [readText.eq_def]
  dsimp only
  split
  · next heq => cases heq
  · next heq =>
    cases heq
    exact absurd rfl hquote
  · next heq =>
    cases heq
    exact absurd rfl hescape
  · next heq =>
    cases heq
    exact absurd rfl hescape
  · next heq =>
    cases heq
    rw [if_neg hplain]

/-- A letter after a backslash stands for what it escapes. -/
theorem readText_letter {letter : CodePoint} (hletter : letterEscape? letter = some c) :
    readText (fuel + 1) done (.char '\x5c' :: letter :: rest) = readText fuel (c :: done) rest := by
  rw [readText.eq_def]
  dsimp only
  split
  · next heq => cases heq
  · next heq => cases heq
  · next heq =>
    cases heq
    cases hletter
  · next heq =>
    cases heq
    rw [hletter]
  · next hother heq =>
    cases heq
    exact absurd rfl (hother _ _ rfl)

/-- A unicode escape stands for its code point. -/
theorem readText_unicode (hescape : unicodeEscape? text = some (c, rest)) :
    readText (fuel + 1) done (.char '\x5c' :: .char 'u' :: text) = readText fuel (c :: done) rest := by
  rw [readText, hescape]

end Reader

/-- What is read up to a quote is a quoted text. -/
theorem exists_of_readText {fuel : Nat} {done said : Text}
    (h : readText fuel done text = .ok (said, rest)) :
    ∃ body more, text = body ++ .char '\x22' :: rest ∧ said = done.reverse ++ more ∧
      WritesText body more := by
  induction fuel generalizing done text with
  | zero => cases h
  | succ fuel ih =>
    have hstep : ∀ (front : Text) {c : CodePoint} {after : Text}, text = front ++ after →
        (∀ {body more}, WritesText body more → after = body ++ .char '\x22' :: rest →
          WritesText (front ++ body) (c :: more)) →
        readText fuel (c :: done) after = .ok (said, rest) →
        ∃ body more, text = body ++ .char '\x22' :: rest ∧ said = done.reverse ++ more ∧
          WritesText body more := by
      intro front c after hfront hwrites hread
      obtain ⟨body, more, hafter, rfl, hbody⟩ := ih hread
      refine ⟨front ++ body, c :: more, ?_, ?_, hwrites hbody hafter⟩
      · rw [hfront, hafter, List.append_assoc]
      · rw [List.reverse_cons, ← List.append_cons]
    rw [readText.eq_def] at h
    dsimp only at h
    split at h
    · cases h
    · cases h
      exact ⟨[], [], rfl, (List.append_nil _).symm, .done⟩
    · split at h
      · next after _ c tail hescape =>
        rcases exists_of_unicodeEscape? hescape with
          ⟨digits, unit, rfl, hunit, rfl, halone⟩ |
          ⟨digits, high, second, low, rfl, hfirst, hhigh, hsecond, hlow, hpair⟩
        · refine hstep (.char '\x5c' :: .char 'u' :: digits) rfl ?_ h
          rintro body more hbody rfl
          exact .unit hunit (fun hhigh hlow => halone hhigh (hlow.append _)) hbody
        · refine hstep
            (.char '\x5c' :: .char 'u' :: (digits ++ .char '\x5c' :: .char 'u' :: second)) ?_ ?_ h
          · simp
          · intro body more hbody _
            have hwrites := WritesText.pair hfirst hhigh hsecond hlow hbody
            rw [← hpair] at hwrites
            simpa using hwrites
      · cases h
    · split at h
      · next letter after _ _ c hletter =>
        refine hstep [.char '\x5c', letter] rfl ?_ h
        exact fun hbody _ => .letter hletter hbody
      · cases h
    · split at h
      · cases h
      · next c after hquote _ _ hplain =>
        rw [Bool.or_eq_true, not_or, decide_eq_true_eq, Nat.not_lt, beq_iff_eq] at hplain
        refine hstep [c] rfl ?_ h
        exact fun hbody _ => .plain hplain.1 hquote hplain.2 hbody

/-- No quoted text is refused. -/
theorem readText_ne_refused (refusal : Refusal) (fuel : Nat) (done text : Text) :
    readText fuel done text ≠ .error (.refused refusal) := by
  induction fuel generalizing done text with
  | zero => simp [readText]
  | succ fuel ih =>
    rw [readText.eq_def]
    dsimp only
    split
    · simp
    · simp
    · split
      · exact ih _ _
      · simp
    · split
      · exact ih _ _
      · simp
    · split
      · simp
      · exact ih _ _

/-- A quoted text is read whole. -/
theorem readText_append {body said : Text} (h : WritesText body said) (rest : Text) {fuel : Nat}
    (done : Text) (hfuel : body.length < fuel) :
    readText fuel done (body ++ .char '\x22' :: rest) = .ok (done.reverse ++ said, rest) := by
  induction h generalizing fuel done with
  | done =>
    obtain ⟨fuel, rfl⟩ := Nat.exists_eq_succ_of_ne_zero (Nat.ne_of_gt hfuel)
    rw [List.append_nil]
    rfl
  | @plain c body said hcontrol hquote hescape h ih =>
    obtain ⟨fuel, rfl⟩ := Nat.exists_eq_succ_of_ne_zero (Nat.ne_of_gt (Nat.zero_lt_of_lt hfuel))
    have hrest := ih (c :: done) (Nat.lt_of_succ_lt_succ hfuel)
    rw [List.reverse_cons, ← List.append_cons] at hrest
    rw [List.cons_append, readText_plain hcontrol hquote hescape, hrest]
  | @letter letter c body said hletter h ih =>
    obtain ⟨fuel, rfl⟩ := Nat.exists_eq_succ_of_ne_zero (Nat.ne_of_gt (Nat.zero_lt_of_lt hfuel))
    simp only [List.length_cons] at hfuel
    have hshort : body.length < fuel := by omega
    have hrest := ih (c :: done) hshort
    rw [List.reverse_cons, ← List.append_cons] at hrest
    rw [List.cons_append, List.cons_append, readText_letter hletter, hrest]
  | @unit digits body said unit hunit halone h ih =>
    obtain ⟨fuel, rfl⟩ := Nat.exists_eq_succ_of_ne_zero (Nat.ne_of_gt (Nat.zero_lt_of_lt hfuel))
    simp only [List.length_cons, List.length_append] at hfuel
    have hshort : body.length < fuel := by omega
    have hrest := ih (.ofNat unit :: done) hshort
    rw [List.reverse_cons, ← List.append_cons] at hrest
    have hescape := unicodeEscape?_alone hunit halone h rest
    rw [List.cons_append, List.cons_append, List.append_assoc, readText_unicode hescape, hrest]
  | @pair digits second body said high low hfirst hhigh hsecond hlow h ih =>
    obtain ⟨fuel, rfl⟩ := Nat.exists_eq_succ_of_ne_zero (Nat.ne_of_gt (Nat.zero_lt_of_lt hfuel))
    simp only [List.length_cons, List.length_append] at hfuel
    have hshort : body.length < fuel := by omega
    have hrest := ih (pairOf high low :: done) hshort
    rw [List.reverse_cons, ← List.append_cons] at hrest
    simp only [List.cons_append, List.append_assoc]
    rw [readText_unicode (unicodeEscape?_pair hfirst hhigh hsecond hlow), hrest]

end Breakpoint.Document
