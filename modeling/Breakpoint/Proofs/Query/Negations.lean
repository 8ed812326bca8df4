import Breakpoint.Proofs.Query.Commas
import Breakpoint.Proofs.Query.Drift
import Breakpoint.Proofs.Query.LetterCase
import Breakpoint.Proofs.Query.Shape

/-!
# A negation before a query

Stacked negations are taken off in one go, and only what is left is trimmed, freed of its media
type and cut. This is the same as to read after each negation a query of its own, as long as that
query is not cut: blanks make no difference, and what begins with a negation has no media type
before it.

The blanks of a negation may belong to a conjunction of the whole that the query alone does not
have, if it begins with the word. But neither of them can be read then.
-/

namespace Breakpoint.Query

open Breakpoint.Text

variable {text gap : Text}

/-! ## Negations taken off -/

/-- Every bound that the length of a text does not exceed is none. -/
theorem stripNots_congr {bound other : Nat} (hbound : text.length ≤ bound)
    (hother : text.length ≤ other) : stripNots bound text = stripNots other text := by
  have hempty : ∀ bound, stripNots bound [] = (0, []) := by
    intro bound
    cases bound <;> rfl
  induction bound generalizing text other with
  | zero => rw [List.length_eq_zero_iff.1 (Nat.le_zero.1 hbound), hempty, hempty]
  | succ bound ih =>
    cases other with
    | zero => rw [List.length_eq_zero_iff.1 (Nat.le_zero.1 hother), hempty, hempty]
    | succ other =>
      rw [stripNots, stripNots]
      cases hafter : afterNot? text with
      | none => rfl
      | some rest =>
        obtain ⟨lead, rfl, hlead, -⟩ := exists_afterNot? hafter
        have hpositive := List.length_pos_iff.2 hlead
        rw [List.length_append] at hbound hother
        dsimp only
        rw [ih (show rest.length ≤ bound by omega) (show rest.length ≤ other by omega)]

/-- Nothing is taken off a text without a negation in front. -/
theorem stripNots_of_afterNot? (h : afterNot? text = none) (bound : Nat) :
    stripNots bound text = (0, text) := by
  cases bound with
  | zero => rfl
  | succ bound => rw [stripNots, h]

/-- The word and its blanks are taken off a text that begins with no blank. -/
theorem afterNot?_append (hgap : IsGap gap) (hhead : EndsBlankless text.head?) :
    afterNot? ("not" ++ (gap ++ text)) = some text := by
  have hword : stripSpelling isWideSpelling "not".toList ("not" ++ (gap ++ text)) =
      some (gap ++ text) := rfl
  rw [afterNot?, hword]
  exact skipGap?_eq_some_iff.2 ⟨gap, hgap, rfl, hhead⟩

/-- One more negation is taken off behind another one. -/
theorem stripNots_negation {count : Nat} {rest : Text} (hgap : IsGap gap)
    (hhead : EndsBlankless text.head?) (hstrip : stripNots text.length text = (count, rest)) :
    stripNots (("not" : Text) ++ (gap ++ text)).length ("not" ++ (gap ++ text)) =
      (count + 1, rest) := by
  have hbound : text.length ≤ 2 + (gap ++ text).length := by
    rw [List.length_append]
    omega
  have hlength : (("not" : Text) ++ (gap ++ text)).length = 2 + (gap ++ text).length + 1 := by
    rw [List.length_append, Nat.add_right_comm]
    rfl
  rw [hlength, stripNots, afterNot?_append hgap hhead]
  dsimp only
  rw [stripNots_congr hbound (Nat.le_refl _), hstrip]

/-- There is no media type before a negation. -/
theorem dropMediaType_of_afterNot? {rest : Text} (h : afterNot? text = some rest) :
    dropMediaType text = text := by
  apply Written.BeginsTerm.dropMediaType
  simp only [afterNot?, Option.bind_eq_bind, Option.bind_eq_some_iff, stripSpelling_eq_some_iff] at h
  obtain ⟨-, ⟨word, hspells, rfl⟩, -⟩ := h
  cases hspells with
  | cons hletter _ =>
    have hnone : ∀ {c}, isWideSpelling 'n' c = true → isAsciiSpelling 'n' c = true := by
      simp [isWideSpelling]
    exact .inr (hnone hletter)

/-! ## The scan for conjunctions -/

/-- What the current segment already holds comes first in the first segment. -/
theorem splitFrom_append_current (needle : Text) (width : Nat) (depth : Int)
    (current extra shadow text : Text) :
    splitFrom needle width depth 0 (current ++ extra) shadow text =
      match splitFrom needle width depth 0 current shadow text with
      | [] => if extra.isEmpty then [] else [extra.reverse]
      | first :: others => (extra.reverse ++ first) :: others := by
  induction text generalizing depth current shadow with
  | nil =>
    rw [splitFrom, splitFrom]
    cases current with
    | nil => rfl
    | cons c current => simp
  | cons c rest ih =>
    simp only [splitFrom, ← List.cons_append, ih]
    split
    · rfl
    · split
      · rfl
      · split
        · rw [List.reverse_append]
        · rfl

/-- A text that is not cut is not cut behind what the current segment already holds. -/
theorem splitFrom_of_uncut {needle shadow : Text} {width : Nat}
    (h : splitFrom needle width 0 0 [] shadow text = [text]) (current : Text) :
    splitFrom needle width 0 0 current shadow text = [current.reverse ++ text] := by
  have happend := splitFrom_append_current needle width 0 [] current shadow text
  rwa [List.nil_append, h] at happend

/-- A lead without parentheses is passed if no delimiter begins in it. -/
theorem splitFrom_lead {needle lead shadow : Text} (hlead : ∀ c ∈ lead, turn c = 0)
    (hnone : ∀ before after, lead = before ++ after → after ≠ [] → ¬ needle <+: after ++ shadow)
    (width : Nat) (current text : Text) :
    splitFrom needle width 0 0 current (lead ++ shadow) (lead ++ text) =
      splitFrom needle width 0 0 (lead.reverse ++ current) shadow text := by
  induction lead generalizing current with
  | nil => rfl
  | cons c lead ih =>
    rw [List.forall_mem_cons] at hlead
    have hrest : ∀ before after, lead = before ++ after → after ≠ [] →
        ¬ needle <+: after ++ shadow :=
      fun before after hsplit => hnone (c :: before) after (congrArg (c :: ·) hsplit)
    have hfirst : ¬ needle <+: c :: (lead ++ shadow) := hnone [] (c :: lead) rfl (by simp)
    rw [List.cons_append, List.cons_append, splitFrom_pass (fun hcut => hfirst hcut.2.2), hlead.1,
      Int.add_zero, List.tail_cons, ih hlead.2 hrest, List.reverse_cons, List.append_assoc,
      List.singleton_append]

/-- No conjunction begins in a word. -/
theorem splitFrom_word {word : Text} (hword : ∀ c ∈ word, turn c = 0 ∧ c ≠ .char ' ') (width : Nat)
    (current shadow text : Text) :
    splitFrom Written.conjunction width 0 0 current (word ++ shadow) (word ++ text) =
      splitFrom Written.conjunction width 0 0 (word.reverse ++ current) shadow text := by
  refine splitFrom_lead (fun c hc => (hword c hc).1) ?_ width current text
  intro before after hsplit hne hfound
  obtain ⟨c, after, rfl⟩ := List.exists_cons_of_ne_nil hne
  rw [Written.conjunction, List.cons_append, List.cons_prefix_cons] at hfound
  exact (hword c (hsplit ▸ by simp)).2 hfound.1.symm

/-- No conjunction begins at a blank before another one. -/
theorem splitFrom_blanks {blanks : Text} {last : CodePoint}
    (hblanks : ∀ c ∈ blanks, isBlank c = true) (hlast : isBlank last = true) (width : Nat)
    (current shadow text : Text) :
    splitFrom Written.conjunction width 0 0 current (blanks ++ last :: shadow)
        (blanks ++ last :: text) =
      splitFrom Written.conjunction width 0 0 (blanks.reverse ++ current) (last :: shadow)
        (last :: text) := by
  refine splitFrom_lead (fun c hc => ?_) ?_ width current (last :: text)
  · obtain ⟨hopen, hclose, -⟩ := Written.ne_of_isBlank (hblanks c hc)
    exact turn_eq_zero hopen hclose
  · intro before after hsplit hne hfound
    obtain ⟨c, after, rfl⟩ := List.exists_cons_of_ne_nil hne
    obtain ⟨next, behind, hnext, hblank⟩ : ∃ next behind,
        after ++ last :: shadow = next :: behind ∧ isBlank next = true := by
      cases after with
      | nil => exact ⟨last, shadow, rfl, hlast⟩
      | cons next after => exact ⟨next, _, rfl, hblanks next (hsplit ▸ by simp)⟩
    rw [Written.conjunction, List.cons_append, List.cons_prefix_cons, hnext,
      List.cons_prefix_cons] at hfound
    exact (Written.ne_of_isBlank hblank).2.2.2 hfound.2.1.symm

/-! ## Lower case behind other text -/

/-- The lower case of a text that comes after plain text. -/
theorem lowerAfter_append (h : ∀ c ∈ text, IsPlain c) (before rest : Text) :
    lowerAfter before (text ++ rest) =
      text.map lowerPlain ++ lowerAfter (text.reverse ++ before) rest := by
  induction text generalizing before with
  | nil => rfl
  | cons c text ih =>
    rw [List.forall_mem_cons] at h
    rw [List.cons_append, lowerAfter, lowerAt_of_isPlain h.1, ih h.2, List.map_cons,
      List.reverse_cons, List.append_assoc (text.reverse)]
    rfl

/-- What stands before a text makes no difference to the conjunctions in its lower case. -/
theorem alike_lowerAfter_lowerAfter (first second text : Text) :
    List.Forall₂ (Alike Written.conjunction) (lowerAfter first text) (lowerAfter second text) := by
  induction text generalizing first second with
  | nil => exact .nil
  | cons c text ih =>
    rw [lowerAfter, lowerAfter]
    by_cases hdotted : c = .char 'İ'
    · subst hdotted
      exact .cons (fun _ _ => Iff.rfl) (.cons (fun _ _ => Iff.rfl) (ih _ _))
    · obtain ⟨lowered, hlowered, halike⟩ := exists_lowerAt hdotted first text
      obtain ⟨other, hother, hotherAlike⟩ := exists_lowerAt hdotted second text
      rw [hlowered, hother]
      exact .cons (fun mark hmark => (halike mark hmark).trans (hotherAlike mark hmark).symm)
        (ih _ _)

/-! ## A negation before a trimmed query -/

/-- What is trimmed around a negation and a query is what stands around the query. -/
theorem exists_trim_negation (hgap : IsGap gap) (hne : trim text ≠ []) :
    ∃ blanks, IsGap blanks ∧ trim ("not" ++ (gap ++ text)) = "not" ++ (blanks ++ trim text) := by
  obtain ⟨before, after, htext, hbefore, hafter⟩ := exists_trim text
  refine ⟨gap ++ before, ⟨by simp [hgap.nonempty], ?_⟩, ?_⟩
  · rw [List.forall_mem_append]
    exact ⟨hgap.blank, hbefore⟩
  · have hwhole : ("not" : Text) ++ (gap ++ text) =
        [] ++ (("not" : Text) ++ (gap ++ before ++ trim text)) ++ after := by
      conv_lhs => rw [htext]
      simp only [List.nil_append, List.append_assoc]
    have hhead : EndsBlankless (("not" : Text) ++ (gap ++ before ++ trim text)).head? := by
      intro c hc
      cases hc
      decide
    have hlast : EndsBlankless (("not" : Text) ++ (gap ++ before ++ trim text)).getLast? := by
      rw [← List.append_assoc, List.getLast?_append_of_ne_nil _ hne]
      exact (endsBlankless_trim text).2
    exact hwhole ▸ trim_of_blanks (List.forall_mem_nil _) hafter (by simp [hne]) hhead hlast

/-- A comma in front of which only unmarked text is put stands where it stood. -/
theorem Spares.behind_unmarked {lead : Text} (hlead : ∀ c ∈ lead, IsUnmarked c)
    (h : Spares id [.char ','] text) : Spares id [.char ','] (lead ++ text) := by
  intro before after hsplit hlevel hfound
  rcases List.append_eq_append_iff.1 hsplit with ⟨between, rfl, rfl⟩ | ⟨between, rfl, rfl⟩
  · rw [nesting_append, nesting_of_unmarked hlead, Int.zero_add] at hlevel
    exact h between after rfl hlevel hfound
  · cases between with
    | nil => exact h [] text rfl rfl hfound
    | cons c between =>
      rw [List.cons_append, List.map_cons, List.cons_prefix_cons] at hfound
      exact (hlead c (by simp)).2.2 hfound.1.symm

/-- A query that is not cut at commas is not cut at commas behind a negation. -/
theorem cuts?_comma_negation (hgap : IsGap gap) (hcomma : cuts? text "," false = none) :
    cuts? ("not" ++ (gap ++ text)) "," false = none := by
  have hword : ∀ c ∈ ("not" : Text), c ≠ .char '(' ∧ c ≠ .char ')' ∧ c ≠ .char ',' := by decide
  have hlead : ∀ c ∈ ("not" : Text) ++ gap, IsUnmarked c := by
    rw [List.forall_mem_append]
    exact ⟨hword, hgap.unmarked⟩
  rw [cuts?_comma_eq_none_iff] at hcomma ⊢
  rw [← List.append_assoc]
  exact hcomma.behind_unmarked hlead

/-- The scan for conjunctions goes through a negation up to the last of its blanks. -/
theorem splitTopLevel_negation {blanks : Text} {last : CodePoint}
    (hblanks : ∀ c ∈ blanks, isBlank c = true) (hlast : isBlank last = true) (text : Text) :
    ∃ behind, splitTopLevel ("not" ++ (blanks ++ last :: text)) " and " true =
      splitFrom Written.conjunction 5 0 0 (blanks.reverse ++ ("not" : Text).reverse)
        (last :: lowerAfter behind text) (last :: text) := by
  have hword : ∀ c ∈ ("not" : Text),
      c.val < 0x80 ∧ lowerPlain c = c ∧ turn c = 0 ∧ c ≠ .char ' ' := by decide
  have hgap : ∀ c ∈ blanks ++ [last], isBlank c = true := by
    rw [List.forall_mem_append, List.forall_mem_singleton]
    exact ⟨hblanks, hlast⟩
  have hplain : ∀ c ∈ ("not" : Text) ++ (blanks ++ [last]), IsPlain c ∧ lowerPlain c = c := by
    rw [List.forall_mem_append]
    exact ⟨fun c hc => ⟨.inl (hword c hc).1, (hword c hc).2.1⟩,
      fun c hc => ⟨.inr (hgap c hc), lowerPlain_of_isBlank (hgap c hc)⟩⟩
  have hsame : (("not" : Text) ++ (blanks ++ [last])).map lowerPlain =
      ("not" : Text) ++ (blanks ++ [last]) :=
    (List.map_congr_left fun c hc => (hplain c hc).2).trans (List.map_id _)
  have hwhole : ("not" : Text) ++ (blanks ++ last :: text) =
      ("not" : Text) ++ (blanks ++ [last]) ++ text := by simp
  obtain ⟨behind, hlower⟩ : ∃ behind, lower (("not" : Text) ++ (blanks ++ last :: text)) =
      ("not" : Text) ++ (blanks ++ last :: lowerAfter behind text) := by
    refine ⟨(("not" : Text) ++ (blanks ++ [last])).reverse ++ [], ?_⟩
    rw [lower, hwhole, lowerAfter_append fun c hc => (hplain c hc).1, hsame]
    simp only [List.append_assoc, List.singleton_append]
  refine ⟨behind, ?_⟩
  rw [splitTopLevel, if_pos rfl, hlower]
  exact (splitFrom_word (fun c hc => (hword c hc).2.2) 5 [] _ _).trans
    (splitFrom_blanks hblanks hlast 5 _ _ _)

/-- A text that is not cut is one segment. -/
theorem splitTopLevel_of_uncut (hne : text ≠ []) (h : cuts? text " and " true = none) :
    splitTopLevel text " and " true = [text] := by
  obtain ⟨dissection, htext, hparts, -⟩ := exists_dissection text
  rw [cuts?, ite_eq_left_iff] at h
  have hsingle := not_not.1 (mt h (by simp))
  rw [Bool.or_eq_true, List.isEmpty_iff, beq_iff_eq, ← hparts] at hsingle
  rcases hsingle with hempty | hsame
  · exact absurd (htext ▸ Dissection.text_eq_nil hempty) hne
  · rw [← hparts, hsame]

/-- The text begins with the word of a conjunction and the space after it. -/
def BeginsConjunction (text : Text) : Prop :=
  ∃ conjunction rest, text = conjunction ++ rest ∧ conjunction.map lowerPlain = "and "

/-- A text that is not cut is not cut behind a negation, or the blanks of the negation and the text
make a conjunction: then it is cut there, and nothing is read from the first part. -/
theorem cuts?_negation (hgap : IsGap gap) (hne : text ≠ [])
    (huncut : cuts? text " and " true = none) :
    cuts? ("not" ++ (gap ++ text)) " and " true = none ∨
      BeginsConjunction text ∧ ∃ first others, .char '(' ∉ first ∧
        cuts? ("not" ++ (gap ++ text)) " and " true = some (first :: others) := by
  obtain ⟨blanks, last, rfl⟩ := (List.eq_nil_or_concat' gap).resolve_left hgap.nonempty
  have hblank := hgap.blank
  rw [List.forall_mem_append, List.forall_mem_singleton] at hblank
  obtain ⟨hblanks, hlast⟩ := hblank
  have hturn : turn last = 0 := by
    obtain ⟨hopen, hclose, -⟩ := Written.ne_of_isBlank hlast
    exact turn_eq_zero hopen hclose
  obtain ⟨behind, hsplit⟩ := splitTopLevel_negation hblanks hlast text
  have hlead : (blanks.reverse ++ ("not" : Text).reverse).reverse = ("not" : Text) ++ blanks := by
    rw [List.reverse_append, List.reverse_reverse, List.reverse_reverse]
  rw [List.append_assoc, List.singleton_append]
  by_cases hfound : Written.conjunction <+: last :: lowerAfter behind text
  · refine .inr ⟨?_, ("not" : Text) ++ blanks, _, ?_, Written.cuts?_eq_some
      (hsplit.trans ((splitFrom_found hturn hfound (by decide) _ _).trans (by rw [hlead]))) (by simp) ?_⟩
    · obtain ⟨conjunction, rest, htext, hconjunction⟩ :=
        exists_of_prefix_lowerAfter (by decide) behind (List.cons_prefix_cons.1 hfound).2
      exact ⟨conjunction, rest, htext, hconjunction⟩
    · rw [List.mem_append, not_or]
      exact ⟨by decide, notMem_of_unmarked (isUnmarked_of_blanks hblanks)⟩
    · intro hsame
      have hlength := congrArg List.length (List.cons_eq_cons.1 hsame).1
      simp at hlength
  · refine .inl (Written.cuts?_eq_none ?_)
    have hwhole : splitFrom Written.conjunction 5 0 0 [] (lowerAfter behind text) text = [text] := by
      rw [← splitTopLevel_of_uncut hne huncut]
      exact splitFrom_congr (alike_lowerAfter_lowerAfter behind [] text) 5 0 0 []
    rw [hsplit, splitFrom_pass (fun hcut => hfound hcut.2.2), hturn, Int.add_zero, List.tail_cons,
      splitFrom_of_uncut hwhole, List.reverse_cons, hlead]
    simp only [List.append_assoc, List.singleton_append]

/-! ## Reading -/

/-- No parenthesis stands in a text of blanks. -/
theorem notMem_of_trim_eq_nil (h : trim text = []) : .char '(' ∉ text := by
  obtain ⟨before, after, htext, hbefore, hafter⟩ := exists_trim text
  rw [htext, h, List.nil_append]
  apply notMem_of_unmarked
  rw [List.forall_mem_append]
  exact ⟨isUnmarked_of_blanks hbefore, isUnmarked_of_blanks hafter⟩

/-- What begins with the word of a conjunction and is not cut is not read. -/
theorem parse?_of_beginsConjunction (h : BeginsConjunction (trim text))
    (hcomma : cuts? (trim text) "," false = none)
    (hconjunction : cuts? (trim text) " and " true = none) : parse? text = none := by
  obtain ⟨conjunction, rest, htext, hspelled⟩ := h
  have hlower : (trim text).map lowerPlain = ("and " : Text) ++ rest.map lowerPlain := by
    rw [htext, List.map_append, hspelled]
  have htype : afterMediaType? (trim text) = none := by
    rw [← Option.map_eq_none_iff, ← afterMediaType?_map isRespelling_lowerPlain, hlower]
    rfl
  have hnot : afterNot? (trim text) = none := by
    rw [← Option.map_eq_none_iff, ← afterNot?_map isRespelling_lowerPlain, hlower]
    rfl
  have hfeature : featureOf? (trim text) = none := by
    rw [← featureOf?_map isRespelling_lowerPlain, hlower]
    rfl
  have hworking : dropMediaType (trim text) = trim text := by
    rw [dropMediaType, htype, Option.getD_none, ite_self]
  rw [← hworking] at hcomma hconjunction
  rw [parse?_of_uncut hcomma hconjunction (by rw [hworking, stripNots_of_afterNot? hnot]),
    if_pos rfl, hfeature]

/-- The negations of a text that is not cut may be taken off in one go behind another one. -/
theorem parse?_trim_of_uncut {count : Nat} {rest : Text}
    (hcomma : cuts? (trim text) "," false = none)
    (hconjunction : cuts? (trim text) " and " true = none)
    (hstrip : stripNots (trim text).length (trim text) = (count, rest)) :
    (parse? rest).map (negated (count + 1)) = (parse? text).map .neg := by
  cases count with
  | zero =>
    obtain ⟨lead, hsplit, hlead, -⟩ := exists_stripNots hstrip
    rw [hlead.2 rfl, List.nil_append] at hsplit
    have htrim : trim rest = trim text := by
      rw [← hsplit]
      exact trim_eq_self (endsBlankless_trim text).1 (endsBlankless_trim text).2
    rw [parse?_eq_toOption, parse_of_trim_eq htrim, ← parse?_eq_toOption]
    rfl
  | succ count =>
    have hworking : dropMediaType (trim text) = trim text := by
      cases hafter : afterNot? (trim text) with
      | none =>
        rw [stripNots_of_afterNot? hafter] at hstrip
        cases hstrip
      | some after => exact dropMediaType_of_afterNot? hafter
    rw [← hworking] at hcomma hconjunction hstrip
    rw [parse?_of_uncut hcomma hconjunction hstrip, if_neg (Nat.succ_ne_zero count), Option.map_map]
    congr 1
    funext tree
    exact negated_succ (count + 1) tree

/-- What a negation before a query that is not cut says. -/
theorem parse?_negation {gap query : Text} (hgap : IsGap gap)
    (hcomma : cuts? (trim query) "," false = none)
    (hconjunction : cuts? (trim query) " and " true = none) :
    parse? ("not" ++ (gap ++ query)) = (parse? query).map .neg := by
  by_cases hempty : trim query = []
  · have hwhole : .char '(' ∉ ("not" : Text) ++ (gap ++ query) := by
      rw [List.mem_append, List.mem_append, not_or, not_or]
      exact ⟨by decide, notMem_of_unmarked hgap.unmarked, notMem_of_trim_eq_nil hempty⟩
    rw [parse?_eq_none (notMem_of_trim_eq_nil hempty), parse?_eq_none hwhole, Option.map_none]
  obtain ⟨blanks, hblanks, htrim⟩ := exists_trim_negation hgap hempty
  have hworking : dropMediaType (trim ("not" ++ (gap ++ query))) =
      "not" ++ (blanks ++ trim query) := by
    rw [htrim, dropMediaType_of_afterNot? (afterNot?_append hblanks (endsBlankless_trim query).1)]
  have hwholeComma := cuts?_comma_negation hblanks hcomma
  rcases cuts?_negation hblanks hempty hconjunction with huncut | ⟨hbegins, first, others, hfirst, hcut⟩
  · cases hstrip : stripNots (trim query).length (trim query) with
    | mk count rest =>
      have hwholeStrip := stripNots_negation hblanks (endsBlankless_trim query).1 hstrip
      rw [← hworking] at huncut hwholeComma hwholeStrip
      rw [parse?_of_uncut hwholeComma huncut hwholeStrip, if_neg (Nat.succ_ne_zero count),
        parse?_trim_of_uncut hcomma hconjunction hstrip]
  · rw [← hworking] at hcut hwholeComma
    rw [parse?_of_beginsConjunction hbegins hcomma hconjunction, parse?_of_operands hwholeComma hcut,
      List.mapM_cons, parse?_eq_none hfirst]
    rfl

/-- A negation before a query that is not cut is read as the negation of what the query is read as,
and to no tree where the query is read to none. -/
theorem readsAs_negation_iff {gap query : Text} (hgap : IsGap gap)
    (hcomma : cuts? (trim query) "," false = none)
    (hconjunction : cuts? (trim query) " and " true = none) {tree : Option Query}
    (hread : ReadsAs query tree) (other : Option Query) :
    ReadsAs ("not" ++ (gap ++ query)) other ↔ other = tree.map .neg := by
  rw [readsAs_iff, parse?_negation hgap hcomma hconjunction, readsAs_iff.1 hread]

/-- A negation of a query that has a media type and a negation of its own. -/
theorem negation_before_mediaType_read :
    let hover : Query := .feature ⟨"hover", .exactly, .keyword "none"⟩
    ReadsAs " screen\tand\tNOT (hover: none)" (some (.neg hover)) ∧
      ReadsAs ("not" ++ (("\t" : Text) ++ " screen\tand\tNOT (hover: none)"))
        (some (.neg (.neg hover))) := by
  intro hover
  have hread : ReadsAs " screen\tand\tNOT (hover: none)" (some (.neg hover)) := ⟨2, [], rfl⟩
  exact ⟨hread, (readsAs_negation_iff ⟨by decide, by decide⟩ (by decide +kernel) (by decide +kernel)
    hread _).2 rfl⟩

end Breakpoint.Query
