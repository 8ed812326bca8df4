import Mathlib.Data.List.Induction
import Breakpoint.Proofs.Query.Conjunctions

/-!
# What is cut out of a text

The scan for the conjunction finds it in the lower case of a text, and cuts five code points out of
the text itself, at the same distance from the start. Put back between the segments, what was cut
out gives the text again, so nothing else is lost.

What is cut out is a conjunction outside parentheses as long as the lower case is in step with the
text. Each dotted capital I is two code points in lower case: the scan cuts one code point further
on for each of them that stands before the conjunction. It may cut out a parenthesis then, which
is not counted.
-/

namespace Breakpoint.Query

open Breakpoint.Text

/-! ## Texts taken apart -/

/-- A segment of a text, and what is cut out of the text behind it. -/
structure Seam where
  segment : Text
  cutout : Text

/-- The text that some segments and what is cut out behind them make up. -/
def joined : List Seam → Text
  | [] => []
  | seam :: seams => seam.segment ++ (seam.cutout ++ joined seams)

/-- Two rows of segments make up both texts. -/
theorem joined_append (first second : List Seam) :
    joined (first ++ second) = joined first ++ joined second := by
  induction first with
  | nil => rfl
  | cons seam first ih => simp only [List.cons_append, joined, ih, List.append_assoc]

/-- A text taken apart: the segments that end at a cut, and what is left at the end. -/
structure Dissection where
  seams : List Seam
  remainder : Text

namespace Dissection

/-- The text put together again. -/
def text (dissection : Dissection) : Text := joined dissection.seams ++ dissection.remainder

/-- The segments. An empty one at the end is left out. -/
def parts (dissection : Dissection) : List Text :=
  dissection.seams.map (·.segment) ++
    if dissection.remainder.isEmpty then [] else [dissection.remainder]

/-- One more cut before the others. -/
def cons (seam : Seam) (dissection : Dissection) : Dissection :=
  { dissection with seams := seam :: dissection.seams }

/-- One more cut before the others adds its segment and what is cut out. -/
theorem text_cons (seam : Seam) (dissection : Dissection) :
    (dissection.cons seam).text = seam.segment ++ (seam.cutout ++ dissection.text) := by
  simp only [text, cons, joined, List.append_assoc]

/-- One more cut before the others adds its segment. -/
theorem parts_cons (seam : Seam) (dissection : Dissection) :
    (dissection.cons seam).parts = seam.segment :: dissection.parts := rfl

/-- What holds of each cut: of the text before it, and of what is cut out there. -/
def EachCut (dissection : Dissection) (holds : Text → Text → Prop) : Prop :=
  ∀ earlier seam later, dissection.seams = earlier ++ seam :: later →
    holds (joined earlier ++ seam.segment) seam.cutout

/-- What follows from what holds of each cut holds of each cut. -/
theorem EachCut.imp {dissection : Dissection} {first second : Text → Text → Prop}
    (h : dissection.EachCut first)
    (himp : ∀ before cutout, first before cutout → second before cutout) :
    dissection.EachCut second :=
  fun earlier seam later hseams => himp _ _ (h earlier seam later hseams)

/-- Only the empty text has no parts. -/
theorem text_eq_nil {dissection : Dissection} (h : dissection.parts = []) : dissection.text = [] := by
  obtain ⟨seams, remainder⟩ := dissection
  rw [parts, List.append_eq_nil_iff, List.map_eq_nil_iff] at h
  obtain ⟨rfl, hremainder⟩ := h
  cases remainder with
  | nil => rfl
  | cons c remainder => cases hremainder

/-- What holds of the first cut and then of the others holds of each. -/
theorem EachCut.cons {seam : Seam} {dissection : Dissection} {holds : Text → Text → Prop}
    (hfirst : holds seam.segment seam.cutout)
    (hrest : dissection.EachCut fun before => holds (seam.segment ++ (seam.cutout ++ before))) :
    (dissection.cons seam).EachCut holds := by
  intro earlier other later hseams
  cases earlier with
  | nil =>
    obtain ⟨rfl, -⟩ := List.cons_eq_cons.1 hseams
    exact hfirst
  | cons first earlier =>
    obtain ⟨rfl, hothers⟩ := List.cons_eq_cons.1 hseams
    have hcut := hrest earlier other later hothers
    simpa only [joined, List.append_assoc] using hcut

end Dissection

/-! ## The scan -/

variable {needle text : Text} {width : Nat}

/-- The scan takes the text apart. Each cut is where it finds the needle, and every segment before a
cut closes what it opens. -/
theorem exists_dissection_splitFrom (hwidth : 0 < width) (shadow : Text) {full gone current : Text}
    (hfull : full = gone ++ (current.reverse ++ text)) :
    ∃ dissection : Dissection, dissection.text = current.reverse ++ text ∧
      dissection.parts = splitFrom needle width (nesting current.reverse) 0 current
        (shadow.drop (gone ++ current.reverse).length) text ∧
      (∀ seam ∈ dissection.seams, nesting seam.segment = 0) ∧
      dissection.EachCut fun before cutout => needle <+: shadow.drop (gone ++ before).length ∧
        cutout = (full.drop (gone ++ before).length).take width := by
  -- After a cut the scan goes on behind what is cut out, so the induction is on the length.
  induction hlength : text.length using Nat.strong_induction_on generalizing text gone current with
  | _ length ih =>
    cases text with
    | nil =>
      refine ⟨⟨[], current.reverse⟩, by simp [Dissection.text, joined], ?_, by simp, ?_⟩
      · simp only [Dissection.parts, List.map_nil, List.nil_append, splitFrom, List.isEmpty_reverse]
      · intro earlier seam later hseams
        simp at hseams
    | cons c rest =>
      by_cases hcut : turn c = 0 ∧ nesting current.reverse = 0 ∧
          needle <+: shadow.drop (gone ++ current.reverse).length
      · obtain ⟨hturn, hlevel, hfound⟩ := hcut
        have hshorter : ((c :: rest).drop width).length < length := by
          rw [← hlength, List.length_drop, List.length_cons]
          omega
        have hbehind : full = (gone ++ (current.reverse ++ (c :: rest).take width)) ++
            (([] : Text).reverse ++ (c :: rest).drop width) := by
          rw [hfull, List.reverse_nil, List.nil_append, List.append_assoc, List.append_assoc,
            List.take_append_drop]
        obtain ⟨dissection, htext, hparts, hlevels, hcuts⟩ := ih _ hshorter hbehind rfl
        refine ⟨dissection.cons ⟨current.reverse, (c :: rest).take width⟩, ?_, ?_,
          List.forall_mem_cons.2 ⟨hlevel, hlevels⟩, ?_⟩
        · rw [Dissection.text_cons, htext, List.reverse_nil, List.nil_append,
            List.take_append_drop]
        · rw [hlevel, splitFrom_found hturn hfound hwidth, Dissection.parts_cons, hparts,
            List.reverse_nil, List.append_nil, nesting_nil]
          -- where the text ends before the cut does, the rest of the scan reads nothing
          by_cases hends : width ≤ (c :: rest).length
          · have hplace : (gone ++ (current.reverse ++ (c :: rest).take width)).length =
                (gone ++ current.reverse).length + width := by
              rw [← List.append_assoc, List.length_append, List.length_take, Nat.min_eq_left hends]
            rw [hplace, List.drop_drop]
          · rw [List.drop_eq_nil_of_le (Nat.le_of_not_le hends)]
            rfl
        · refine .cons ⟨hfound, ?_⟩ (hcuts.imp fun before cutout hcut => ?_)
          · rw [hfull, ← List.append_assoc, List.drop_left]
          · simpa only [List.append_assoc] using hcut
      · have hbehind : full = gone ++ ((c :: current).reverse ++ rest) := by
          rw [hfull, List.reverse_cons, List.append_assoc, List.singleton_append]
        obtain ⟨dissection, htext, hparts, hlevels, hcuts⟩ :=
          ih rest.length (by rw [← hlength]; exact Nat.lt_succ_self _) hbehind rfl
        refine ⟨dissection, ?_, ?_, hlevels, hcuts⟩
        · rw [htext, List.reverse_cons, List.append_assoc, List.singleton_append]
        · have hdepth : nesting (c :: current).reverse = nesting current.reverse + turn c := by simp
          have hplace : (gone ++ (c :: current).reverse).length =
              (gone ++ current.reverse).length + 1 := by simp [Nat.add_assoc]
          rw [splitFrom_pass hcut, hparts, hdepth, hplace, List.tail_drop]

/-- A text is taken apart at the places where its lower case has the conjunction. -/
theorem exists_dissection (text : Text) :
    ∃ dissection : Dissection, dissection.text = text ∧
      dissection.parts = splitTopLevel text " and " true ∧
      (∀ seam ∈ dissection.seams, nesting seam.segment = 0) ∧
      dissection.EachCut fun before cutout =>
        Written.conjunction <+: (lower text).drop before.length ∧
          cutout = (text.drop before.length).take 5 := by
  have hwhole : text = [] ++ (([] : Text).reverse ++ text) := rfl
  exact exists_dissection_splitFrom (Nat.succ_pos 4) (lower text) hwhole

/-! ## Where the lower case has the conjunction -/

/-- Where the lower case of a text begins with code points of the conjunction, the text begins with
the same, up to the case of ASCII letters. -/
theorem exists_of_prefix_lowerAfter (hneedle : ∀ c ∈ needle, c ∈ Written.conjunction) (behind : Text)
    (h : needle <+: lowerAfter behind text) :
    ∃ delimiter after, text = delimiter ++ after ∧ delimiter.map lowerPlain = needle := by
  induction needle generalizing behind text with
  | nil => exact ⟨[], text, rfl, rfl⟩
  | cons mark needle ih =>
    rw [List.forall_mem_cons] at hneedle
    cases text with
    | nil => exact absurd (List.prefix_nil.1 h) (List.cons_ne_nil _ _)
    | cons c rest =>
      by_cases hdotted : c = .char 'İ'
      · subst hdotted
        obtain ⟨hmark, -⟩ := List.cons_prefix_cons.1 h
        rw [hmark] at hneedle
        exact absurd hneedle.1 (by decide)
      · obtain ⟨lowered, hlowered, halike⟩ := exists_lowerAt hdotted behind rest
        rw [lowerAfter, hlowered, List.singleton_append, List.cons_prefix_cons] at h
        obtain ⟨delimiter, after, rfl, hrest⟩ := ih hneedle.2 (c :: behind) h.2
        refine ⟨c :: delimiter, after, rfl, ?_⟩
        rw [List.map_cons, hrest, ← (halike mark hneedle.1).1 h.1]

/-- Where the lower case of a text has the conjunction, the text has it as many code points before
as there are dotted capital I in front. -/
theorem exists_of_prefix_drop_lowerAfter {place : Nat} (behind : Text)
    (h : Written.conjunction <+: (lowerAfter behind text).drop place) :
    ∃ ahead delimiter after, text = ahead ++ (delimiter ++ after) ∧
      delimiter.map lowerPlain = Written.conjunction ∧
      place = ahead.length + ahead.count (.char 'İ') := by
  induction text generalizing behind place with
  | nil =>
    rw [lowerAfter, List.drop_nil] at h
    exact absurd (List.prefix_nil.1 h) (by decide)
  | cons c rest ih =>
    cases place with
    | zero =>
      obtain ⟨delimiter, after, hsplit, hdelimiter⟩ :=
        exists_of_prefix_lowerAfter (fun _ => id) behind h
      exact ⟨[], delimiter, after, hsplit, hdelimiter, rfl⟩
    | succ place =>
      by_cases hdotted : c = .char 'İ'
      · subst hdotted
        have hlowered : lowerAt behind (.char 'İ') rest = [.char 'i', .char '\u0307'] := rfl
        rw [lowerAfter, hlowered] at h
        cases place with
        | zero =>
          obtain ⟨hmark, -⟩ := List.cons_prefix_cons.1 h
          exact absurd hmark (by decide)
        | succ place =>
          obtain ⟨ahead, delimiter, after, rfl, hdelimiter, rfl⟩ := ih _ h
          refine ⟨.char 'İ' :: ahead, delimiter, after, rfl, hdelimiter, ?_⟩
          rw [List.length_cons, List.count_cons_self]
          omega
      · obtain ⟨lowered, hlowered, -⟩ := exists_lowerAt hdotted behind rest
        rw [lowerAfter, hlowered] at h
        obtain ⟨ahead, delimiter, after, rfl, hdelimiter, rfl⟩ := ih _ h
        refine ⟨c :: ahead, delimiter, after, rfl, hdelimiter, ?_⟩
        rw [List.length_cons, List.count_cons_of_ne hdotted]
        omega

/-- A text that is not told apart from some marks is those marks. -/
theorem eq_of_alike {marks first second : Text} (hsecond : ∀ c ∈ second, c ∈ marks)
    (h : List.Forall₂ (Alike marks) first second) : first = second := by
  induction h with
  | nil => rfl
  | @cons c mark first second hfirst _ ih =>
    rw [List.forall_mem_cons] at hsecond
    rw [(hfirst mark hsecond.1).2 rfl, ih hsecond.2]

/-- What is a conjunction up to the case of ASCII letters is one in lower case. -/
theorem lower_of_map_lowerPlain {delimiter : Text}
    (h : delimiter.map lowerPlain = Written.conjunction) : lower delimiter = Written.conjunction := by
  have hdotted : .char 'İ' ∉ delimiter := by
    intro hmember
    have hmark : lowerPlain (.char 'İ') ∈ Written.conjunction := by
      rw [← h]
      exact List.mem_map_of_mem hmember
    exact absurd hmark (by decide)
  have halike := alike_lowerAfter hdotted []
  rw [h] at halike
  exact eq_of_alike (fun _ => id) halike

/-! ## In step and out of step -/

/-- What is cut out stands in the text behind what is before it. -/
theorem Dissection.eachCut_text (dissection : Dissection) :
    dissection.EachCut fun before cutout => ∃ rest, dissection.text = before ++ (cutout ++ rest) := by
  intro earlier seam later hseams
  refine ⟨joined later ++ dissection.remainder, ?_⟩
  simp only [text, hseams, joined_append, joined, List.append_assoc]

/-- Where every cut so far was in step with the text, it is outside parentheses. -/
theorem Dissection.EachCut.nesting {dissection : Dissection}
    (hlevels : ∀ seam ∈ dissection.seams, Query.nesting seam.segment = 0)
    (h : dissection.EachCut fun before cutout => .char 'İ' ∉ before →
      cutout.map lowerPlain = Written.conjunction) :
    dissection.EachCut fun before _ => .char 'İ' ∉ before → Query.nesting before = 0 := by
  intro earlier
  induction earlier using List.reverseRecOn with
  | nil =>
    intro seam later hseams _
    exact hlevels seam (by rw [hseams]; exact List.mem_cons_self)
  | append_singleton earlier last ih =>
    intro seam later hseams hdotted
    have hlevel : Query.nesting seam.segment = 0 := hlevels seam (by rw [hseams]; simp)
    rw [List.append_assoc, List.singleton_append] at hseams
    simp only [joined_append, joined, List.append_nil, List.append_assoc, List.mem_append,
      not_or] at hdotted
    obtain ⟨hearlier, hsegment, -, -⟩ := hdotted
    have hbefore : .char 'İ' ∉ joined earlier ++ last.segment := by simp [hearlier, hsegment]
    have hcutout : Query.nesting last.cutout = 0 :=
      nesting_eq_zero (isDelimiter_conjunction.forall_mem (h earlier last _ hseams hbefore))
    have hlast := ih last _ hseams hbefore
    simp only [joined_append, joined, List.append_nil, nesting_append] at hlast ⊢
    omega

/-- A cut is made for a conjunction of the text. It is cut out itself if no dotted capital I stands
ahead of it. -/
theorem exists_conjunction {before cutout rest : Text} (htext : text = before ++ (cutout ++ rest))
    (hfound : Written.conjunction <+: (lower text).drop before.length)
    (hcutout : cutout = (text.drop before.length).take 5) :
    ∃ ahead delimiter after, text = ahead ++ (delimiter ++ after) ∧ ahead <+: before ∧
      delimiter.map lowerPlain = Written.conjunction ∧
      before.length = ahead.length + ahead.count (.char 'İ') ∧
      (.char 'İ' ∉ ahead → before = ahead ∧ cutout = delimiter) := by
  obtain ⟨ahead, delimiter, after, hahead, hdelimiter, hplace⟩ :=
    exists_of_prefix_drop_lowerAfter [] hfound
  refine ⟨ahead, delimiter, after, hahead, ?_, hdelimiter, hplace, fun hdotted => ?_⟩
  · have hbefore : before <+: text := by rw [htext]; exact List.prefix_append _ _
    have hfront : ahead <+: text := by rw [hahead]; exact List.prefix_append _ _
    exact List.prefix_of_prefix_length_le hfront hbefore (by omega)
  · rw [List.count_eq_zero_of_not_mem hdotted, Nat.add_zero] at hplace
    have hsame : before ++ (cutout ++ rest) = ahead ++ (delimiter ++ after) := htext.symm.trans hahead
    have hfront : before = ahead := (List.append_inj hsame hplace).1
    have hfive : delimiter.length = 5 := by
      rw [← List.length_map lowerPlain, hdelimiter]
      rfl
    refine ⟨hfront, ?_⟩
    rw [hcutout, hfront, hahead, List.drop_left, ← hfive, List.take_left]

/-- The parts are what is left of the text when conjunctions outside parentheses are removed. -/
def RemovesConjunctions (text : Text) (parts : List Text) : Prop :=
  ∃ dissection : Dissection, dissection.text = text ∧ dissection.parts = parts ∧
    dissection.EachCut fun before cutout =>
      cutout.length = 5 ∧ lower cutout = " and " ∧ nesting before = 0

/-- The parts of a text and what is cut out between them make up the text. Behind each part that is
followed by a cut, five code points are cut out, or those that are left, because a conjunction
stands as many code points before as there are dotted capital I ahead of it. If there are none, the
conjunction itself is cut out, and it is outside parentheses. So nothing but conjunctions is removed
from a text without the dotted capital I. -/
theorem cutouts_of_conjunctions (text : Text) :
    (∃ dissection : Dissection, dissection.text = text ∧
      dissection.parts = splitTopLevel text " and " true ∧
      (∀ seam ∈ dissection.seams, nesting seam.segment = 0) ∧
      dissection.EachCut fun before cutout => ∃ ahead delimiter after,
        text = ahead ++ (delimiter ++ after) ∧ delimiter.length = 5 ∧ lower delimiter = " and " ∧
        before.length = ahead.length + ahead.count (.char 'İ') ∧
        cutout = (text.drop before.length).take 5 ∧
        (.char 'İ' ∉ ahead → before = ahead ∧ cutout = delimiter ∧ nesting before = 0)) ∧
    (splitTopLevel text " and " true = [] → text = []) ∧
    (.char 'İ' ∉ text → RemovesConjunctions text (splitTopLevel text " and " true)) := by
  obtain ⟨dissection, htext, hparts, hlevels, hcuts⟩ := exists_dissection text
  have hnesting : dissection.EachCut fun before _ => .char 'İ' ∉ before → nesting before = 0 := by
    refine Dissection.EachCut.nesting hlevels ?_
    intro earlier seam later hseams hdotted
    obtain ⟨hfound, hcutout⟩ := hcuts earlier seam later hseams
    obtain ⟨rest, hbefore⟩ := dissection.eachCut_text earlier seam later hseams
    obtain ⟨ahead, delimiter, after, -, hfront, hdelimiter, -, hsame⟩ :=
      exists_conjunction (htext.symm.trans hbefore) hfound hcutout
    rw [(hsame fun hmember => hdotted (hfront.subset hmember)).2, hdelimiter]
  have hdrift : dissection.EachCut fun before cutout => ∃ ahead delimiter after,
      text = ahead ++ (delimiter ++ after) ∧ delimiter.length = 5 ∧ lower delimiter = " and " ∧
      before.length = ahead.length + ahead.count (.char 'İ') ∧
      cutout = (text.drop before.length).take 5 ∧
      (.char 'İ' ∉ ahead → before = ahead ∧ cutout = delimiter ∧ nesting before = 0) := by
    intro earlier seam later hseams
    obtain ⟨hfound, hcutout⟩ := hcuts earlier seam later hseams
    obtain ⟨rest, hbefore⟩ := dissection.eachCut_text earlier seam later hseams
    obtain ⟨ahead, delimiter, after, hahead, -, hdelimiter, hplace, hsame⟩ :=
      exists_conjunction (htext.symm.trans hbefore) hfound hcutout
    have hlower : lower delimiter = " and " := lower_of_map_lowerPlain hdelimiter
    have hfive : delimiter.length = 5 := by
      rw [← List.length_map lowerPlain, hdelimiter]
      rfl
    refine ⟨ahead, delimiter, after, hahead, hfive, hlower, hplace, hcutout, fun hdotted => ?_⟩
    obtain ⟨hfront, hcut⟩ := hsame hdotted
    exact ⟨hfront, hcut, hnesting earlier seam later hseams (by rwa [hfront])⟩
  refine ⟨⟨dissection, htext, hparts, hlevels, hdrift⟩, fun hnone => ?_, fun hdotted => ?_⟩
  · rw [← htext]
    exact Dissection.text_eq_nil (hparts.trans hnone)
  · refine ⟨dissection, htext, hparts, hdrift.imp ?_⟩
    rintro before cutout ⟨ahead, delimiter, after, hahead, hfive, hlower, -, -, hsame⟩
    have hclear : .char 'İ' ∉ ahead := by
      rw [hahead] at hdotted
      exact fun hmember => hdotted (List.mem_append_left _ hmember)
    obtain ⟨-, rfl, hlevel⟩ := hsame hclear
    exact ⟨hfive, hlower, hlevel⟩

/-- Behind a dotted capital I, a parenthesis is cut out. -/
theorem parenthesis_removed :
    ¬ ∀ text : Text, RemovesConjunctions text (splitTopLevel text " and " true) := by
  intro h
  obtain ⟨⟨seams, remainder⟩, htext, hparts, hcuts⟩ := h "İ(a) and (b)"
  have hsplit : splitTopLevel "İ(a) and (b)" " and " true = ["İ(a) ", "b)"] := by decide
  rw [hsplit, Dissection.parts] at hparts
  cases seams with
  | nil =>
    cases remainder with
    | nil => cases hparts
    | cons c remainder => cases (List.cons_eq_cons.1 hparts).2
  | cons seam seams =>
    obtain ⟨hfive, hlower, -⟩ := hcuts [] seam seams rfl
    have hsegment : seam.segment = "İ(a) " := (List.cons_eq_cons.1 hparts).1
    rw [Dissection.text, joined, hsegment, List.append_assoc, List.append_assoc] at htext
    have hbehind : seam.cutout ++ (joined seams ++ remainder) = "and (" ++ "b)" :=
      List.append_cancel_left htext
    obtain ⟨hcutout, -⟩ := List.append_inj hbehind hfive
    rw [hcutout] at hlower
    exact absurd hlower (by decide)

end Breakpoint.Query
