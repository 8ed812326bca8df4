import Breakpoint.Proofs.Document.Atoms

/-!
# Members between commas

The items of a list and the entries of a map are read alike: a member, and after a comma the others,
up to the closing character. What is said here of such a series depends on its members only by how
they are written and read.
-/

namespace Breakpoint.Document

open Decimal

variable {text rest blanks : Text}

/-! ## What ends a member -/

/-- Blanks before what ends a number end the number, too. -/
theorem EndsNumber.blanks_append (hblanks : IsBlanks blanks) (h : EndsNumber rest) :
    EndsNumber (blanks ++ rest) := by
  cases blanks with
  | nil => exact h
  | cons c blanks =>
    intro d hd
    cases hd
    have hblank := hblanks c List.mem_cons_self
    refine ⟨?_, ?_, ?_, ?_⟩
    · rw [isBlank, Bool.or_eq_true, Bool.or_eq_true, Bool.or_eq_true, beq_iff_eq, beq_iff_eq,
        beq_iff_eq, beq_iff_eq] at hblank
      rw [isAsciiDigit, Bool.and_eq_false_iff, decide_eq_false_iff_not]
      omega
    all_goals
      rintro rfl
      cases hblank

/-- A delimiter is no blank. -/
theorem IsDelimiter.isBlank {c : CodePoint} (h : IsDelimiter c) : isBlank c = false := by
  rcases h with rfl | rfl | rfl <;> decide

/-- A number ends before a delimiter. -/
theorem IsDelimiter.endsNumber {c : CodePoint} (h : IsDelimiter c) (rest : Text) :
    EndsNumber (c :: rest) := by
  intro d hd
  cases hd
  rcases h with rfl | rfl | rfl <;> decide

/-- The blanks before a delimiter are skipped, and nothing after it. -/
theorem skipBlanks_delimiter {c : CodePoint} (hblanks : IsBlanks blanks) (h : IsDelimiter c)
    (rest : Text) : skipBlanks (blanks ++ c :: rest) = c :: rest := by
  apply skipBlanks_append hblanks
  intro d hd
  cases hd
  exact h.isBlank

/-! ## Series -/

/-- What stands before a closing character. -/
def Closed {α : Type} (close : CodePoint) (written : Text → α → Prop) (text : Text) (said : α) :
    Prop :=
  ∃ body, text = body ++ [close] ∧ written body said

/-- The forms of a series with commas between its members, and of the texts at which reading
them stops. -/
structure IsSeries {α : Type} (member : Text → α → Prop) (series : Text → List α → Prop)
    (stalledMember stalledSeries : Refusal → Text → Prop) : Prop where
  last : ∀ {text blanks said}, member text said → IsBlanks blanks → series (text ++ blanks) [said]
  next : ∀ {text before after rest said others}, member text said → IsBlanks before →
    IsBlanks after → series rest others →
    series (text ++ (before ++ .char ',' :: (after ++ rest))) (said :: others)
  stalledFirst : ∀ {refusal text}, stalledMember refusal text → stalledSeries refusal text
  stalledLater : ∀ {refusal text before after rest said}, member text said → IsBlanks before →
    IsBlanks after → stalledSeries refusal rest →
    stalledSeries refusal (text ++ (before ++ .char ',' :: (after ++ rest)))

/-- What follows the first member of a series: its closing character, or a comma and the others. -/
def finishSeries {α : Type} (close : CodePoint)
    (readOthers : Text → Except ReadFault (List α × Text)) (first : α) :
    Text → Except ReadFault (List α × Text)
  | [] => .error .malformed
  | c :: rest =>
    if c = close then .ok ([first], rest)
    else if c = .char ',' then
      (readOthers (skipBlanks rest)).map fun found => (first :: found.1, found.2)
    else .error .malformed

/-- The members of a series up to its closing character, given how a member and the rest of the
series are read. -/
def readSeries {α : Type} (close : CodePoint) (readMember : Text → Except ReadFault (α × Text))
    (readOthers : Text → Except ReadFault (List α × Text)) (text : Text) :
    Except ReadFault (List α × Text) :=
  match readMember text with
  | .error fault => .error fault
  | .ok (first, rest) => finishSeries close readOthers first (skipBlanks rest)

section Series

variable {α : Type} {member : Text → α → Prop} {series : Text → List α → Prop}
  {stalledMember stalledSeries : Refusal → Text → Prop} {close : CodePoint}
  {readMember : Text → Except ReadFault (α × Text)}
  {readOthers : Text → Except ReadFault (List α × Text)} {first : α}

/-- A series ends at its closing delimiter. -/
theorem finishSeries_close : finishSeries close readOthers first (close :: rest) = .ok ([first], rest) :=
  if_pos rfl

/-- After a comma, the other members of a series are read. -/
theorem finishSeries_comma (hclose : close ≠ .char ',') :
    finishSeries close readOthers first (.char ',' :: rest) =
      (readOthers (skipBlanks rest)).map fun found => (first :: found.1, found.2) := by
  rw [finishSeries, if_neg (Ne.symm hclose), if_pos rfl]

/-- Neither closed nor continued, a series is malformed. -/
theorem finishSeries_other (hclose : ∀ rest, text ≠ close :: rest)
    (hcomma : ∀ rest, text ≠ .char ',' :: rest) :
    finishSeries close readOthers first text = .error .malformed := by
  cases text with
  | nil => rfl
  | cons c rest =>
    have hc : c ≠ close := fun heq => hclose rest (heq ▸ rfl)
    have hother : c ≠ .char ',' := fun heq => hcomma rest (heq ▸ rfl)
    rw [finishSeries, if_neg hc, if_neg hother]

/-- What is taken for a series is one. -/
theorem readSeries_explains (hseries : IsSeries member series stalledMember stalledSeries)
    (hmember : ∀ text, Explains member stalledMember text (readMember text))
    (hothers : ∀ text, Explains (Closed close series) stalledSeries text (readOthers text))
    (text : Text) :
    Explains (Closed close series) stalledSeries text (readSeries close readMember readOthers text) := by
  have hfirst := hmember text
  rw [readSeries]
  match readMember text, hfirst with
  | .error (.refused _), hfirst => exact hseries.stalledFirst hfirst
  | .error .malformed, _ => trivial
  | .ok (first, rest), ⟨front, hfront, hsaid⟩ =>
    obtain ⟨before, hbefore, hblanks⟩ := exists_skipBlanks rest
    dsimp only
    rw [finishSeries.eq_def]
    split
    · trivial
    · next c rest hskip =>
      rw [hskip] at hbefore
      split
      · next hclose =>
        refine ⟨front ++ (before ++ [c]), ?_, front ++ before, ?_, hseries.last hsaid hblanks⟩
        · rw [hfront, hbefore, List.append_assoc, List.append_assoc]
          rfl
        · rw [hclose, List.append_assoc]
      · split
        · next hcomma =>
          subst hcomma
          obtain ⟨after, hafter, hblanksAfter⟩ := exists_skipBlanks rest
          have hmore := hothers (skipBlanks rest)
          match readOthers (skipBlanks rest), hmore with
          | .error (.refused _), hmore =>
            have hstalled := hseries.stalledLater hsaid hblanks hblanksAfter hmore
            rw [← hafter, ← hbefore, ← hfront] at hstalled
            exact hstalled
          | .error .malformed, _ => trivial
          | .ok (others, last), ⟨body, hbody, middle, hmiddle, hsaidOthers⟩ =>
            refine ⟨front ++ (before ++ .char ',' :: (after ++ body)), ?_,
              front ++ (before ++ .char ',' :: (after ++ middle)), ?_,
              hseries.next hsaid hblanks hblanksAfter hsaidOthers⟩
            · rw [hfront, hbefore, hafter, hbody]
              simp
            · rw [hmiddle]
              simp
        · trivial

/-- A series ends with its last member. -/
theorem readSeries_last (hclose : IsDelimiter close) (hblanks : IsBlanks blanks)
    (hfirst : readMember text = .ok (first, blanks ++ close :: rest)) :
    readSeries close readMember readOthers text = .ok ([first], rest) := by
  rw [readSeries, hfirst]
  dsimp only
  rw [skipBlanks_delimiter hblanks hclose, finishSeries_close]

/-- After a comma the rest of a series is read. -/
theorem readSeries_next (hclose : close ≠ .char ',') {before after : Text}
    (hbefore : IsBlanks before) (hafter : IsBlanks after) (hrest : Opens rest)
    (hfirst : readMember text = .ok (first, before ++ .char ',' :: (after ++ rest))) :
    readSeries close readMember readOthers text =
      (readOthers rest).map fun found => (first :: found.1, found.2) := by
  rw [readSeries, hfirst]
  dsimp only
  rw [skipBlanks_delimiter hbefore (.inl rfl), finishSeries_comma hclose,
    skipBlanks_opens hafter hrest]

end Series

/-! ## Series between brackets -/

/-- What follows an opening bracket: the closing one, or a series up to it. -/
def readEnclosed {α : Type} (close : CodePoint)
    (readMembers : Text → Except ReadFault (List α × Text)) (made : List α → Value) (text : Text) :
    Except ReadFault (Value × Text) :=
  if (skipBlanks text).head? = some close then .ok (made [], (skipBlanks text).tail)
  else (readMembers (skipBlanks text)).map fun found => (made found.1, found.2)

section Enclosed

variable {α : Type} {room : Nat} {series : Text → List α → Prop}
  {stalledSeries : Refusal → Text → Prop} {opening close : CodePoint}
  {readMembers : Text → Except ReadFault (List α × Text)} {made : List α → Value}

/-- Between its delimiters there may be nothing but blanks. -/
theorem readEnclosed_empty (hclose : IsDelimiter close) (hblanks : IsBlanks blanks) (rest : Text) :
    readEnclosed close readMembers made (blanks ++ close :: rest) = .ok (made [], rest) := by
  rw [readEnclosed, skipBlanks_delimiter hblanks hclose]
  exact if_pos rfl

/-- Blanks before the first member of a series are skipped. -/
theorem readEnclosed_append (hclose : IsDelimiter close) (hblanks : IsBlanks blanks)
    (h : Opens text) :
    readEnclosed close readMembers made (blanks ++ text) =
      (readMembers text).map fun found => (made found.1, found.2) := by
  rw [readEnclosed, skipBlanks_opens hblanks h, if_neg]
  obtain ⟨c, more, rfl, -, hc⟩ := h
  rintro hhead
  cases hhead
  exact hc hclose

/-- What is taken for a value between brackets is one. -/
theorem readEnclosed_explains
    (hempty : ∀ {blanks}, IsBlanks blanks →
      WritesValue room (opening :: (blanks ++ [close])) (made []))
    (hsome : ∀ {blanks text members}, IsBlanks blanks → series text members →
      WritesValue room (opening :: (blanks ++ (text ++ [close]))) (made members))
    (hstalled : ∀ {refusal blanks text}, IsBlanks blanks → stalledSeries refusal text →
      Stalls room .value refusal (opening :: (blanks ++ text)))
    (hmembers : ∀ text, Explains (Closed close series) stalledSeries text (readMembers text))
    (text : Text) :
    Explains (WritesValue room) (Stalls room .value) (opening :: text)
      (readEnclosed close readMembers made text) := by
  obtain ⟨blanks, htext, hblanks⟩ := exists_skipBlanks text
  rw [readEnclosed]
  split
  · next hhead =>
    obtain ⟨rest, hrest⟩ := List.head?_eq_some_iff.1 hhead
    refine ⟨opening :: (blanks ++ [close]), ?_, hempty hblanks⟩
    rw [hrest] at htext ⊢
    rw [htext]
    simp
  · have hopening : opening :: text = (opening :: blanks) ++ skipBlanks text :=
      congrArg (opening :: ·) htext
    rw [hopening]
    refine (hmembers (skipBlanks text)).enclose _ made ?_ (hstalled hblanks)
    rintro _ members ⟨body, rfl, hbody⟩
    exact hsome hblanks hbody

end Enclosed

/-! ## Readers with fuel -/

/-- Fuel beyond some bound is one unit more than fuel that reaches the bound. -/
theorem exists_succ_of_lt {n fuel : Nat} (h : n < fuel) : ∃ less, fuel = less + 1 ∧ n ≤ less :=
  ⟨fuel - 1, by omega, by omega⟩

section Fuel

variable {α : Type}

/-- With enough fuel, a member is read as what it says, whatever follows that ends a number. -/
def ReadsMember (readMember : Nat → Text → Except ReadFault (α × Text)) (text : Text) (said : α) :
    Prop :=
  ∀ {fuel rest}, EndsNumber rest → 2 * text.length ≤ fuel →
    readMember (fuel + 1) (text ++ rest) = .ok (said, rest)

/-- With enough fuel, a series is read as what it says, up to its closing character. -/
def ReadsMembers (close : CodePoint)
    (readMembers : Nat → Text → Except ReadFault (List α × Text)) (text : Text) (said : List α) :
    Prop :=
  ∀ {fuel rest}, 2 * text.length + 1 ≤ fuel →
    readMembers (fuel + 1) (text ++ close :: rest) = .ok (said, rest)

/-- With enough fuel, a member is refused. -/
def RefusesMember (readMember : Nat → Text → Except ReadFault (α × Text)) (refusal : Refusal)
    (text : Text) : Prop :=
  ∀ {fuel}, 2 * text.length ≤ fuel → readMember (fuel + 1) text = .error (.refused refusal)

/-- With enough fuel, a series is refused. -/
def RefusesMembers (readMembers : Nat → Text → Except ReadFault (List α × Text))
    (refusal : Refusal) (text : Text) : Prop :=
  ∀ {fuel}, 2 * text.length + 1 ≤ fuel → readMembers (fuel + 1) text = .error (.refused refusal)

/-- A reader takes a series apart, at the cost of one step for each member. -/
structure TakesApart (close : CodePoint) (readMember : Nat → Text → Except ReadFault (α × Text))
    (readMembers : Nat → Text → Except ReadFault (List α × Text)) : Prop where
  isDelimiter : IsDelimiter close
  ne_comma : close ≠ .char ','
  step : ∀ fuel text,
    readMembers (fuel + 1) text = readSeries close (readMember fuel) (readMembers fuel) text

variable {close : CodePoint} {readMember : Nat → Text → Except ReadFault (α × Text)}
  {readMembers : Nat → Text → Except ReadFault (List α × Text)} {before after more : Text}
  {first : α} {others : List α} {refusal : Refusal}

/-- The last member of a series is a series of its own. -/
theorem TakesApart.last (h : TakesApart close readMember readMembers)
    (hfirst : ReadsMember readMember text first) (hblanks : IsBlanks blanks) :
    ReadsMembers close readMembers (text ++ blanks) [first] := by
  intro fuel rest hfuel
  rw [List.length_append] at hfuel
  have hlt : 2 * text.length < fuel := by omega
  obtain ⟨less, rfl, hless⟩ := exists_succ_of_lt hlt
  have hends := (h.isDelimiter.endsNumber rest).blanks_append hblanks
  rw [h.step, List.append_assoc]
  exact readSeries_last h.isDelimiter hblanks (hfirst hends hless)

/-- The first member of a series that goes on is read, up to its comma. -/
theorem ReadsMember.comma (hfirst : ReadsMember readMember text first) (hbefore : IsBlanks before)
    {fuel : Nat} (hfuel : 2 * text.length ≤ fuel) (rest : Text) :
    readMember (fuel + 1) (text ++ (before ++ .char ',' :: rest)) =
      .ok (first, before ++ .char ',' :: rest) := by
  have hcomma : IsDelimiter (.char ',') := by decide
  exact hfirst ((hcomma.endsNumber rest).blanks_append hbefore) hfuel

/-- A member before a series makes a longer series. -/
theorem TakesApart.next (h : TakesApart close readMember readMembers)
    (hfirst : ReadsMember readMember text first) (hbefore : IsBlanks before)
    (hafter : IsBlanks after) (hopens : Opens more) (hothers : ReadsMembers close readMembers more others) :
    ReadsMembers close readMembers (text ++ (before ++ .char ',' :: (after ++ more)))
      (first :: others) := by
  intro fuel rest hfuel
  simp only [List.length_cons, List.length_append] at hfuel
  have hlt : 2 * text.length < fuel := by omega
  obtain ⟨less, rfl, hless⟩ := exists_succ_of_lt hlt
  have hmore : 2 * more.length + 1 ≤ less := by omega
  rw [h.step]
  simp only [List.append_assoc, List.cons_append]
  rw [readSeries_next h.ne_comma hbefore hafter (hopens.append _) (hfirst.comma hbefore hless _),
    hothers hmore]
  rfl

/-- A series is refused where its first member is. -/
theorem TakesApart.refusesFirst (h : TakesApart close readMember readMembers)
    (hfirst : RefusesMember readMember refusal text) :
    RefusesMembers readMembers refusal text := by
  intro fuel hfuel
  have hlt : 2 * text.length < fuel := by omega
  obtain ⟨less, rfl, hless⟩ := exists_succ_of_lt hlt
  rw [h.step, readSeries, hfirst hless]

/-- A series is refused where one of its later members is. -/
theorem TakesApart.refusesLater (h : TakesApart close readMember readMembers)
    (hfirst : ReadsMember readMember text first) (hbefore : IsBlanks before)
    (hafter : IsBlanks after) (hopens : Opens more)
    (hothers : RefusesMembers readMembers refusal more) :
    RefusesMembers readMembers refusal (text ++ (before ++ .char ',' :: (after ++ more))) := by
  intro fuel hfuel
  simp only [List.length_cons, List.length_append] at hfuel
  have hlt : 2 * text.length < fuel := by omega
  obtain ⟨less, rfl, hless⟩ := exists_succ_of_lt hlt
  have hmore : 2 * more.length + 1 ≤ less := by omega
  rw [h.step,
    readSeries_next h.ne_comma hbefore hafter hopens (hfirst.comma hbefore hless _), hothers hmore]
  rfl

/-- A series between its delimiters is read to what is made of its members. -/
theorem ReadsMembers.enclosed (h : ReadsMembers close readMembers text others)
    (hclose : IsDelimiter close) (hblanks : IsBlanks blanks) (hopens : Opens text) {fuel : Nat}
    (hfuel : 2 * text.length + 1 < fuel) (made : List α → Value) (rest : Text) :
    readEnclosed close (readMembers fuel) made (blanks ++ (text ++ close :: rest)) =
      .ok (made others, rest) := by
  obtain ⟨less, rfl, hless⟩ := exists_succ_of_lt hfuel
  rw [readEnclosed_append hclose hblanks (hopens.append _), h hless]
  rfl

/-- A refused series is refused between its delimiters. -/
theorem RefusesMembers.enclosed (h : RefusesMembers readMembers refusal text)
    (hclose : IsDelimiter close) (hblanks : IsBlanks blanks) (hopens : Opens text) {fuel : Nat}
    (hfuel : 2 * text.length + 1 < fuel) (made : List α → Value) :
    readEnclosed close (readMembers fuel) made (blanks ++ text) = .error (.refused refusal) := by
  obtain ⟨less, rfl, hless⟩ := exists_succ_of_lt hfuel
  rw [readEnclosed_append hclose hblanks hopens, h hless]
  rfl

end Fuel

end Breakpoint.Document
