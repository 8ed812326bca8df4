import Breakpoint.Proofs.Document.Grammar
import Breakpoint.Proofs.Text.Digits

/-!
# Numbers are read as they are written

The reader of numbers takes as much of a text as it can. What it takes has the form of a number and
the value that it tells, and a number is taken whole where nothing follows that could belong to it.
An integer of too many digits is refused, and nothing else is refused for its digits.
-/

namespace Breakpoint.Document

open Decimal

variable {text rest : Text}

/-- What a reader found has the form that is wanted and is a front of the text, or the reader
stopped where the text is refused. -/
def Explains {α : Type} (written : Text → α → Prop) (stalled : Refusal → Text → Prop)
    (text : Text) : Except ReadFault (α × Text) → Prop
  | .ok (said, rest) => ∃ front, text = front ++ rest ∧ written front said
  | .error (.refused refusal) => stalled refusal text
  | .error .malformed => True

/-- A number is refused for too many digits only. -/
def StallsNumber (refusal : Refusal) (text : Text) : Prop :=
  refusal = .tooManyDigits ∧ BeginsLong text

/-- Where such a text begins, no number goes on. -/
def EndsNumber (rest : Text) : Prop :=
  ∀ c, rest.head? = some c →
    isAsciiDigit c = false ∧ c ≠ .char '.' ∧ c ≠ .char 'e' ∧ c ≠ .char 'E'

section Explains

variable {α β : Type} {written : Text → α → Prop} {stalled stalled' : Refusal → Text → Prop}
  {result : Except ReadFault (α × Text)}

/-- What was found is a part of something that begins further ahead. -/
theorem Explains.enclose {written' : Text → β → Prop} (h : Explains written stalled text result)
    (front : Text) (f : α → β)
    (hwritten : ∀ {body said}, written body said → written' (front ++ body) (f said))
    (hstalled : ∀ {refusal}, stalled refusal text → stalled' refusal (front ++ text)) :
    Explains written' stalled' (front ++ text)
      (result.map fun found => (f found.1, found.2)) := by
  match result, h with
  | .ok (said, rest), ⟨body, hbody, hsaid⟩ =>
    refine ⟨front ++ body, ?_, hwritten hsaid⟩
    rw [hbody, List.append_assoc]
  | .error (.refused _), h => exact hstalled h
  | .error .malformed, _ => trivial

/-- What explains the rest of a text explains the whole, if the form allows the front. -/
theorem Explains.behind {written' : Text → α → Prop} (h : Explains written stalled text result)
    (front : Text) (hwritten : ∀ {body said}, written body said → written' (front ++ body) said)
    (hstalled : ∀ {refusal}, stalled refusal text → stalled' refusal (front ++ text)) :
    Explains written' stalled' (front ++ text) result := by
  have hsame : (result.map fun found => (id found.1, found.2)) = result := by
    cases result <;> rfl
  rw [← hsame]
  exact h.enclose front id hwritten hstalled

end Explains

/-! ## Fractions and exponents -/

/-- A fraction is left out exactly if it has no digits. -/
theorem WritesFraction.eq_nil_iff {fraction digits : Text} (h : WritesFraction fraction digits) :
    fraction = [] ↔ digits = [] := by
  cases h with
  | absent => exact Iff.rfl
  | point hdigits => exact iff_of_false (List.cons_ne_nil _ _) hdigits.1

/-- An exponent is left out exactly if it has no power. -/
theorem WritesExponent.eq_nil_iff {exponent : Text} {power : Option Int}
    (h : WritesExponent exponent power) : exponent = [] ↔ power = none := by
  cases h with
  | absent => simp
  | power => simp

/-- What is taken for a fraction is one. -/
theorem exists_spanFraction (text : Text) :
    ∃ front, text = front ++ (spanFraction text).2 ∧ WritesFraction front (spanFraction text).1 := by
  rw [spanFraction.eq_def]
  split
  · next rest =>
    obtain ⟨hsplit, hdigits⟩ := exists_spanDigits rest
    generalize spanDigits rest = found at hsplit hdigits
    obtain ⟨digits, after⟩ := found
    split
    · exact ⟨[], rfl, .absent⟩
    · next hne =>
      refine ⟨.char '.' :: digits, congrArg (_ :: ·) hsplit, .point ⟨?_, hdigits⟩⟩
      rintro rfl
      exact hne after rfl
  · exact ⟨[], rfl, .absent⟩

/-- A fraction is taken whole. -/
theorem spanFraction_append {fraction digits : Text} (h : WritesFraction fraction digits)
    (hrest : ∀ c, rest.head? = some c → isAsciiDigit c = false ∧ c ≠ .char '.') :
    spanFraction (fraction ++ rest) = (digits, rest) := by
  cases h with
  | absent =>
    rw [List.nil_append, spanFraction.eq_def]
    split
    · exact absurd rfl (hrest _ rfl).2
    · rfl
  | point hdigits =>
    have hspan := spanDigits_append hdigits.2 rest fun c hc => (hrest c hc).1
    rw [List.cons_append, spanFraction, hspan]
    split
    · next hempty => exact absurd (congrArg Prod.fst hempty) hdigits.1
    · rfl

/-- A sign is taken off, or there is none. -/
theorem exists_writesSign (text : Text) :
    ∃ sign, text = sign ++ (stripSign text).2 ∧ WritesSign sign (stripSign text).1 := by
  rw [stripSign.eq_def]
  split
  · exact ⟨_, rfl, .minus⟩
  · exact ⟨_, rfl, .plus⟩
  · exact ⟨_, rfl, .absent⟩

/-- The sign before digits is told from them. -/
theorem stripSign_append {sign digits : Text} {negative : Bool} (hsign : WritesSign sign negative)
    (hdigits : IsDigits digits) (rest : Text) :
    stripSign (sign ++ (digits ++ rest)) = (negative, digits ++ rest) := by
  cases hsign with
  | plus => rfl
  | minus => rfl
  | absent =>
    obtain ⟨c, digits, rfl⟩ := List.exists_cons_of_ne_nil hdigits.1
    have hdigit := hdigits.2 c List.mem_cons_self
    rw [List.nil_append, stripSign.eq_def]
    split
    · next heq =>
      cases heq
      cases hdigit
    · next heq =>
      cases heq
      cases hdigit
    · rfl

/-- What is taken for an exponent is one. -/
theorem exists_spanExponent (text : Text) :
    ∃ front, text = front ++ (spanExponent text).2 ∧ WritesExponent front (spanExponent text).1 := by
  rw [spanExponent.eq_def]
  split
  · next letter rest =>
    split
    · next hletter =>
      obtain ⟨sign, hstripped, hsign⟩ := exists_writesSign rest
      obtain ⟨hsplit, hdigits⟩ := exists_spanDigits (stripSign rest).2
      dsimp only
      generalize stripSign rest = stripped at hstripped hsign hsplit hdigits
      obtain ⟨negative, unsigned⟩ := stripped
      dsimp only at hstripped hsign hsplit hdigits ⊢
      generalize spanDigits unsigned = found at hsplit hdigits
      obtain ⟨digits, after⟩ := found
      split
      · exact ⟨[], rfl, .absent⟩
      · next hne hfound =>
        cases hfound
        rw [Bool.or_eq_true, beq_iff_eq, beq_iff_eq] at hletter
        refine ⟨letter :: (sign ++ digits), ?_, .power hletter hsign ⟨hne, hdigits⟩⟩
        rw [hstripped, hsplit, List.cons_append, List.append_assoc]
    · exact ⟨[], rfl, .absent⟩
  · exact ⟨[], rfl, .absent⟩

/-- An exponent is taken whole. -/
theorem spanExponent_append {exponent : Text} {power : Option Int}
    (h : WritesExponent exponent power)
    (hrest : ∀ c, rest.head? = some c →
      isAsciiDigit c = false ∧ c ≠ .char 'e' ∧ c ≠ .char 'E') :
    spanExponent (exponent ++ rest) = (power, rest) := by
  cases h with
  | absent =>
    cases rest with
    | nil => rfl
    | cons c rest =>
      obtain ⟨-, hsmall, hcapital⟩ := hrest c rfl
      have hletter : ¬ ((c == .char 'e' || c == .char 'E') = true) := by
        simp [hsmall, hcapital]
      rw [List.nil_append, spanExponent, if_neg hletter]
  | @power letter sign digits negative hletter hsign hdigits =>
    have hspan := spanDigits_append hdigits.2 rest fun c hc => (hrest c hc).1
    have hletter : (letter == .char 'e' || letter == .char 'E') = true := by
      simpa using hletter
    rw [List.cons_append, List.append_assoc, spanExponent, if_pos hletter,
      stripSign_append hsign hdigits]
    dsimp only
    rw [hspan]
    split
    · next hempty => exact absurd (congrArg Prod.fst hempty) hdigits.1
    · next hfound =>
      cases hfound
      rfl

/-! ## Whole numbers -/

/-- The digits before the point, as the reader of numbers takes them. -/
def spanWhole : Text → Text × Text
  | .char '0' :: rest => ([.char '0'], rest)
  | text => spanDigits text

/-- A whole number without a leading zero takes all digits. -/
theorem spanWhole_of_ne (h : ∀ rest, text ≠ .char '0' :: rest) : spanWhole text = spanDigits text := by
  rw [spanWhole.eq_def]
  split
  · exact absurd rfl (h _)
  · rfl

/-- What is taken before the point is a whole number, if it is anything. -/
theorem exists_spanWhole (text : Text) :
    text = (spanWhole text).1 ++ (spanWhole text).2 ∧
      ((spanWhole text).1 ≠ [] → IsWhole (spanWhole text).1) ∧
      (1 < (spanWhole text).1.length →
        ∀ c, (spanWhole text).2.head? = some c → isAsciiDigit c = false) := by
  rw [spanWhole.eq_def]
  split
  · exact ⟨rfl, fun _ => .inl rfl, fun hlong => absurd hlong (by simp)⟩
  · next hzero =>
    obtain ⟨hsplit, hdigits⟩ := exists_spanDigits text
    refine ⟨hsplit, ?_, fun _ c hc => head?_spanDigits hc⟩
    intro hsome
    refine .inr ⟨⟨hsome, hdigits⟩, ?_⟩
    intro hhead
    obtain ⟨after, hfront⟩ := List.head?_eq_some_iff.1 hhead
    rw [hfront] at hsplit
    exact hzero _ hsplit

/-- A whole number is taken whole. -/
theorem spanWhole_append {whole : Text} (h : IsWhole whole)
    (hrest : ∀ c, rest.head? = some c → isAsciiDigit c = false) :
    spanWhole (whole ++ rest) = (whole, rest) := by
  rcases h with rfl | ⟨hdigits, hhead⟩
  · rfl
  · rw [spanWhole.eq_def]
    split
    · next heq =>
      obtain ⟨c, whole, rfl⟩ := List.exists_cons_of_ne_nil hdigits.1
      cases heq
      exact absurd rfl hhead
    · exact spanDigits_append hdigits.2 rest hrest

/-! ## Numbers -/

/-- What the reader of numbers makes of the digits before the point. -/
def finishNumber (negative : Bool) (whole rest : Text) : Except ReadFault (Value × Text) :=
  let (fraction, rest) := spanFraction rest
  let (power, rest) := spanExponent rest
  if fraction.isEmpty && power.isNone then
    if digitLimit < whole.length then .error (.refused .tooManyDigits)
    else .ok (.int (signed negative (digitsValue whole)), rest)
  else
    .ok (.float (withSign negative
      (nearest (digitsValue (whole ++ fraction)) (power.getD 0 - fraction.length))), rest)

/-- A magnitude is its whole part with what finishes it. -/
theorem readMagnitude_eq (negative : Bool) (text : Text) :
    readMagnitude negative text =
      if (spanWhole text).1.isEmpty then .error .malformed
      else finishNumber negative (spanWhole text).1 (spanWhole text).2 := by
  rw [readMagnitude.eq_def]
  split
  next whole rest hwhole =>
  have hspan : spanWhole text = (whole, rest) := by
    rw [← hwhole]
    split
    · rfl
    · next hzero => exact spanWhole_of_ne hzero
  rw [hspan]
  rfl

/-- Digits at the front are found. -/
theorem spanDigits_ne_nil {digits : Text} (h : IsDigits digits) (rest : Text) :
    (spanDigits (digits ++ rest)).1 ≠ [] := by
  obtain ⟨c, digits, rfl⟩ := List.exists_cons_of_ne_nil h.1
  rw [spanDigits, List.span_eq_takeWhile_dropWhile, List.cons_append,
    List.takeWhile_cons_of_pos (h.2 c List.mem_cons_self)]
  exact List.cons_ne_nil _ _

/-- Where an integer cannot go on, the reader takes it for one. -/
theorem finishNumber_boundary (negative : Bool) (whole : Text) (hrest : IsBoundary rest) :
    finishNumber negative whole rest =
      if digitLimit < whole.length then .error (.refused .tooManyDigits)
      else .ok (.int (signed negative (digitsValue whole)), rest) := by
  obtain ⟨-, hfractions, hexponents⟩ := hrest
  have hfraction : spanFraction rest = ([], rest) := by
    obtain ⟨front, hsplit, hwrites⟩ := exists_spanFraction rest
    obtain rfl := hfractions front _ ⟨_, hsplit.symm⟩ hwrites
    generalize spanFraction rest = found at hsplit hwrites
    obtain ⟨digits, after⟩ := found
    cases hwrites
    rw [hsplit]
    rfl
  have hexponent : spanExponent rest = (none, rest) := by
    obtain ⟨front, hsplit, hwrites⟩ := exists_spanExponent rest
    obtain rfl := hexponents front _ ⟨_, hsplit.symm⟩ hwrites
    generalize spanExponent rest = found at hsplit hwrites
    obtain ⟨power, after⟩ := found
    cases hwrites
    rw [hsplit]
    rfl
  simp only [finishNumber, hfraction, hexponent]
  rfl

/-- Where the reader takes no fraction and no exponent, there is none. -/
theorem isBoundary_of_spans (hhead : ∀ c, rest.head? = some c → isAsciiDigit c = false)
    (hfraction : (spanFraction rest).1 = []) (hexponent : (spanExponent rest).1 = none) :
    IsBoundary rest := by
  refine ⟨hhead, ?_, ?_⟩
  · rintro front digits ⟨tail, rfl⟩ hwrites
    cases hwrites with
    | absent => rfl
    | point hdigits =>
      have hsome := spanDigits_ne_nil hdigits tail
      rw [List.cons_append, spanFraction] at hfraction
      split at hfraction
      · next hempty => exact absurd (congrArg Prod.fst hempty) hsome
      · exact absurd hfraction hsome
  · rintro front power ⟨tail, rfl⟩ hwrites
    cases hwrites with
    | absent => rfl
    | @power letter sign digits negative hletter hsign hdigits =>
      have hsome := spanDigits_ne_nil hdigits tail
      have hletter : (letter == .char 'e' || letter == .char 'E') = true := by simpa using hletter
      rw [List.cons_append, List.append_assoc, spanExponent, if_pos hletter,
        stripSign_append hsign hdigits] at hexponent
      dsimp only at hexponent
      split at hexponent
      · next hempty => exact absurd (congrArg Prod.fst hempty) hsome
      · cases hexponent

/-- What the reader makes of a whole number is a number, or an integer of too many digits. -/
theorem finishNumber_explains {negative : Bool} {whole : Text} (hwhole : IsWhole whole)
    (hhead : 1 < whole.length → ∀ c, rest.head? = some c → isAsciiDigit c = false) :
    Explains (WritesMagnitude digitLimit negative) StallsNumber (whole ++ rest)
      (finishNumber negative whole rest) := by
  obtain ⟨fraction, hafter, hfraction⟩ := exists_spanFraction rest
  obtain ⟨exponent, hlast, hexponent⟩ := exists_spanExponent (spanFraction rest).2
  generalize hfound : spanFraction rest = found at hafter hfraction hlast hexponent
  obtain ⟨digits, between⟩ := found
  dsimp only at hafter hfraction hlast hexponent
  generalize hfinal : spanExponent between = final at hlast hexponent
  obtain ⟨power, after⟩ := final
  dsimp only at hlast hexponent
  by_cases hnone : digits = [] ∧ power = none
  · obtain ⟨rfl, rfl⟩ := hnone
    obtain rfl := hfraction.eq_nil_iff.2 rfl
    obtain rfl := hexponent.eq_nil_iff.2 rfl
    obtain rfl : rest = between := hafter
    obtain rfl : rest = after := hlast
    have hfinish : finishNumber negative whole rest =
        if digitLimit < whole.length then .error (.refused .tooManyDigits)
        else .ok (.int (signed negative (digitsValue whole)), rest) := by
      simp only [finishNumber, hfound, hfinal]
      rfl
    rw [hfinish]
    split
    · next hlong =>
      have hboundary := isBoundary_of_spans (hhead (Nat.lt_of_le_of_lt (by decide) hlong))
        (congrArg Prod.fst hfound) (congrArg Prod.fst hfinal)
      exact ⟨rfl, whole, rest, rfl, hwhole, hlong, hboundary⟩
    · next hshort => exact ⟨whole, rfl, .int hwhole (Nat.le_of_not_lt hshort)⟩
  · have hpart : fraction ≠ [] ∨ exponent ≠ [] := by
      rw [Ne, Ne, hfraction.eq_nil_iff, hexponent.eq_nil_iff, ← not_and_or]
      exact hnone
    have hfinish : finishNumber negative whole rest = .ok (.float (withSign negative
        (nearest (digitsValue (whole ++ digits)) (power.getD 0 - digits.length))), after) := by
      have hsome : ¬ ((digits.isEmpty && power.isNone) = true) := by
        simpa using hnone
      simp only [finishNumber, hfound, hfinal, if_neg hsome]
    rw [hfinish]
    refine ⟨whole ++ (fraction ++ exponent), ?_, .float hwhole hfraction hexponent hpart⟩
    rw [hafter, hlast, List.append_assoc, List.append_assoc]

/-- What the reader of numbers takes is a number. -/
theorem readMagnitude_explains (negative : Bool) (text : Text) :
    Explains (WritesMagnitude digitLimit negative) StallsNumber text (readMagnitude negative text) := by
  obtain ⟨hsplit, hwhole, hhead⟩ := exists_spanWhole text
  rw [readMagnitude_eq]
  split
  · trivial
  · next hsome =>
    rw [List.isEmpty_iff] at hsome
    have hfinish : Explains (WritesMagnitude digitLimit negative) StallsNumber _ _ :=
      finishNumber_explains (hwhole hsome) hhead
    rw [← hsplit] at hfinish
    exact hfinish

/-- An integer of too many digits is refused. -/
theorem readMagnitude_of_beginsLong (negative : Bool) (h : BeginsLong text) :
    readMagnitude negative text = .error (.refused .tooManyDigits) := by
  obtain ⟨whole, rest, rfl, hwhole, hlong, hrest⟩ := h
  have hsome : ¬ (whole.isEmpty = true) := by
    rw [List.isEmpty_iff]
    rintro rfl
    cases hlong
  rw [readMagnitude_eq, spanWhole_append hwhole hrest.1, if_neg hsome,
    finishNumber_boundary negative whole hrest, if_pos hlong]

/-- Where no number goes on, an integer ends. -/
theorem EndsNumber.isBoundary (h : EndsNumber rest) : IsBoundary rest := by
  refine ⟨fun c hc => (h c hc).1, ?_, ?_⟩
  · rintro front digits ⟨tail, rfl⟩ hwrites
    cases hwrites with
    | absent => rfl
    | point => exact absurd rfl (h _ rfl).2.1
  · rintro front power ⟨tail, rfl⟩ hwrites
    cases hwrites with
    | absent => rfl
    | power hletter =>
      obtain ⟨-, -, hsmall, hcapital⟩ := h _ rfl
      exact absurd hletter (not_or.2 ⟨hsmall, hcapital⟩)

/-- What follows a whole number of a number begins with no digit, nor does what follows a
fraction. -/
theorem WritesExponent.head? {exponent : Text} {power : Option Int}
    (h : WritesExponent exponent power) (hrest : EndsNumber rest) :
    ∀ c, (exponent ++ rest).head? = some c → isAsciiDigit c = false ∧ c ≠ .char '.' := by
  intro c hc
  cases h with
  | absent =>
    obtain ⟨hdigit, hpoint, -⟩ := hrest c hc
    exact ⟨hdigit, hpoint⟩
  | power hletter =>
    cases hc
    rcases hletter with rfl | rfl <;> decide

/-- Behind a whole number no digit follows, with a fraction or without. -/
theorem WritesFraction.head? {fraction digits exponent : Text}
    (h : WritesFraction fraction digits)
    (hrest : ∀ c, exponent.head? = some c → isAsciiDigit c = false) :
    ∀ c, (fraction ++ exponent).head? = some c → isAsciiDigit c = false := by
  intro c hc
  cases h with
  | absent => exact hrest c hc
  | point =>
    cases hc
    decide

/-- A number is taken whole where nothing goes on. -/
theorem readMagnitude_append {negative : Bool} {value : Value}
    (h : WritesMagnitude digitLimit negative text value) (hrest : EndsNumber rest) :
    readMagnitude negative (text ++ rest) = .ok (value, rest) := by
  have hsome : ∀ {whole : Text}, IsWhole whole → ¬ (whole.isEmpty = true) := by
    rintro whole (rfl | ⟨hdigits, -⟩)
    · decide
    · rw [List.isEmpty_iff]
      exact hdigits.1
  rw [readMagnitude_eq]
  cases h with
  | int hwhole hmost =>
    have hboundary := hrest.isBoundary
    rw [spanWhole_append hwhole hboundary.1, if_neg (hsome hwhole),
      finishNumber_boundary negative text hboundary, if_neg (Nat.not_lt_of_le hmost)]
  | @float whole fraction digits exponent power hwhole hfraction hexponent hpart =>
    have hafter := hexponent.head? hrest
    have hbehind := hfraction.head? fun c hc => (hafter c hc).1
    have hpower := spanExponent_append hexponent fun c hc =>
      ⟨(hrest c hc).1, (hrest c hc).2.2⟩
    have hnone : ¬ ((digits.isEmpty && power.isNone) = true) := by
      rw [Bool.and_eq_true, List.isEmpty_iff, Option.isNone_iff_eq_none,
        ← hfraction.eq_nil_iff, ← hexponent.eq_nil_iff, not_and_or]
      exact hpart
    rw [List.append_assoc, List.append_assoc, spanWhole_append hwhole hbehind,
      if_neg (hsome hwhole)]
    simp only [finishNumber, spanFraction_append hfraction hafter, hpower, if_neg hnone]

/-- A number without a limit on its digits keeps the limit of the reader, or begins with an integer
of too many. -/
theorem WritesMagnitude.within_or_beginsLong {most : Nat} {negative : Bool} {value : Value}
    (h : WritesMagnitude most negative text value) (hrest : EndsNumber rest) :
    WritesMagnitude digitLimit negative text value ∨ BeginsLong (text ++ rest) := by
  cases h with
  | int hwhole =>
    rcases Nat.lt_or_ge digitLimit text.length with hlong | hshort
    · exact .inr ⟨text, rest, rfl, hwhole, hlong, hrest.isBoundary⟩
    · exact .inl (.int hwhole hshort)
  | float hwhole hfraction hexponent hpart =>
    exact .inl (.float hwhole hfraction hexponent hpart)

end Breakpoint.Document
