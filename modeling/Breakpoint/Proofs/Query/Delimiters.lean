import Breakpoint.Proofs.Query.Nesting

/-!
# Cuts at every delimiter

With regard to letter case the cuts of a text are exact: the segments with the delimiter between
them are the text again, and there is a cut at each delimiter outside parentheses that does not
overlap an earlier cut, and nowhere else.

Only an empty segment at the end is lost, and with it the last delimiter.
-/

namespace Breakpoint.Query

open Breakpoint.Text

/-- The text is cut behind `before`, which is what the segments in front of the cut make up. -/
def CutsAt (delimiter : Text) (segments : List Text) (before : Text) : Prop :=
  ∃ earlier, earlier ≠ [] ∧ earlier <+: segments ∧ before = delimiter.intercalate earlier

/-- What is cut out behind an earlier place ends in front of a place. -/
def Clears (delimiter : Text) (segments : List Text) (before : Text) : Prop :=
  ∀ earlier, CutsAt delimiter segments earlier → earlier.length < before.length →
    (earlier ++ delimiter).length ≤ before.length

variable {delimiter text last before : Text} {segments : List Text}

/-! ## Places of cuts -/

/-- Where there are no segments there is no cut. -/
theorem not_cutsAt_nil : ¬ CutsAt delimiter [] before := by
  rintro ⟨earlier, hne, hearlier, -⟩
  exact hne (List.prefix_nil.1 hearlier)

/-- The first cut is behind the first segment, and the others are those of the rest. -/
theorem cutsAt_cons {first : Text} :
    CutsAt delimiter (first :: segments) before ↔
      before = first ∨ ∃ behind, before = first ++ (delimiter ++ behind) ∧
        CutsAt delimiter segments behind := by
  constructor
  · rintro ⟨earlier, hne, hearlier, rfl⟩
    cases earlier with
    | nil => exact absurd rfl hne
    | cons segment earlier =>
      rw [List.cons_prefix_cons] at hearlier
      obtain ⟨rfl, hearlier⟩ := hearlier
      by_cases hlast : earlier = []
      · subst hlast
        exact .inl List.intercalate_singleton
      · refine .inr ⟨delimiter.intercalate earlier, ?_, earlier, hlast, hearlier, rfl⟩
        rw [List.intercalate_cons_of_ne_nil hlast, List.append_assoc]
  · rintro (rfl | ⟨_, rfl, earlier, hne, hearlier, rfl⟩)
    · exact ⟨[before], List.cons_ne_nil _ _, List.cons_prefix_cons.2 ⟨rfl, List.nil_prefix⟩,
        List.intercalate_singleton.symm⟩
    · refine ⟨first :: earlier, List.cons_ne_nil _ _, List.cons_prefix_cons.2 ⟨rfl, hearlier⟩, ?_⟩
      rw [List.intercalate_cons_of_ne_nil hne, List.append_assoc]

/-- Nothing is cut out in front of the first cut. -/
theorem clears_head (first : Text) : Clears delimiter (first :: segments) first := by
  intro earlier hcut hbefore
  rcases cutsAt_cons.1 hcut with rfl | ⟨behind, rfl, -⟩
  · exact absurd hbefore (Nat.lt_irrefl _)
  · rw [List.length_append] at hbefore
    omega

/-- Behind the first cut, no cut is overlapped if none of the rest is. -/
theorem clears_cons {first behind : Text} :
    Clears delimiter (first :: segments) (first ++ (delimiter ++ behind)) ↔
      Clears delimiter segments behind := by
  constructor
  · intro h earlier hcut hbefore
    have hclear := h (first ++ (delimiter ++ earlier)) (cutsAt_cons.2 (.inr ⟨earlier, rfl, hcut⟩))
    simp only [List.length_append] at hclear ⊢
    omega
  · intro h earlier hcut hbefore
    rcases cutsAt_cons.1 hcut with rfl | ⟨inner, rfl, hinner⟩
    · simp only [List.length_append]
      omega
    · have hclear := h inner hinner
      simp only [List.length_append] at hclear hbefore ⊢
      omega

/-! ## Exact cuts -/

/-- An empty text at the end leaves one more delimiter there. -/
theorem intercalate_concat_nil (hne : segments ≠ []) :
    delimiter.intercalate (segments ++ [[]]) = delimiter.intercalate segments ++ delimiter := by
  induction segments with
  | nil => exact absurd rfl hne
  | cons first segments ih =>
    by_cases hlast : segments = []
    · subst hlast
      rw [List.singleton_append, List.intercalate_cons_cons, List.intercalate_singleton,
        List.intercalate_singleton, List.append_nil]
    · rw [List.cons_append, List.intercalate_cons_of_ne_nil (by simp), ih hlast,
        List.intercalate_cons_of_ne_nil hlast, List.append_assoc _ _ delimiter]

/-- No delimiter outside parentheses begins in front of what is passed. -/
theorem Passes.prefix_of_level {piece rest : Text} (h : Passes id delimiter piece rest)
    (hlevel : nesting before = 0) (hfound : before ++ delimiter <+: piece ++ rest) :
    piece <+: before := by
  obtain ⟨after, htext⟩ := hfound
  rw [List.append_assoc] at htext
  rcases List.append_eq_append_iff.1 htext with ⟨skipped, rfl, hskipped⟩ | ⟨beyond, rfl, -⟩
  · by_cases hempty : skipped = []
    · exact ⟨[], by rw [hempty, List.append_nil, List.append_nil]⟩
    · have hstarts : delimiter ++ after = (skipped ++ rest).map id :=
        hskipped.trans (List.map_id _).symm
      exact absurd ⟨after, hstarts⟩ (h before skipped rfl hempty hlevel)
  · exact List.prefix_append _ _

namespace Splits

/-- The segments with delimiters between them are the text. -/
theorem intercalate_eq (h : Splits id delimiter text segments last) :
    delimiter.intercalate (segments ++ [last]) = text := by
  induction h with
  | last => exact List.intercalate_singleton
  | cut _ _ found _ ih =>
    rw [List.map_id] at found
    rw [List.cons_append, List.intercalate_cons_of_ne_nil (by simp), ih, found, List.append_assoc]

/-- The parts with delimiters between them are the text, but for the last delimiter if the segment
behind it is empty. -/
theorem intercalate_partsOf (h : Splits id delimiter text segments last) (hne : text ≠ []) :
    delimiter.intercalate (partsOf segments last) ++ (if last = [] then delimiter else []) = text := by
  have hwhole := h.intercalate_eq
  cases last with
  | nil =>
    have hsegments : segments ≠ [] := by
      rintro rfl
      exact hne hwhole.symm
    rw [intercalate_concat_nil hsegments] at hwhole
    rw [if_pos rfl, partsOf, List.isEmpty_nil, if_pos rfl, List.append_nil, hwhole]
  | cons c last =>
    rw [if_neg (List.cons_ne_nil c last), List.append_nil]
    exact hwhole

/-- A text is cut at its delimiters outside parentheses, from left to right without overlap. -/
theorem cutsAt_iff (h : Splits id delimiter text segments last)
    (hdelimiter : IsDelimiter id delimiter) (before : Text) :
    CutsAt delimiter segments before ↔
      nesting before = 0 ∧ before ++ delimiter <+: text ∧ Clears delimiter segments before := by
  have hlevel : nesting delimiter = 0 := nesting_eq_zero (hdelimiter.forall_mem (List.map_id _))
  induction h generalizing before with
  | @last piece passes =>
    refine iff_of_false not_cutsAt_nil ?_
    rintro ⟨hbefore, ⟨after, rfl⟩, -⟩
    apply passes before (delimiter ++ after) (List.append_assoc _ _ _) (by simp [hdelimiter.nonempty])
      hbefore
    simp
  | @cut piece cutout rest last segments passes hpiece found _ ih =>
    rw [List.map_id] at found
    subst found
    have hplace : ∀ {behind}, nesting (piece ++ (cutout ++ behind)) = nesting behind := by
      intro behind
      rw [nesting_append, nesting_append, hpiece, hlevel, Int.zero_add, Int.zero_add]
    constructor
    · intro hcut
      rcases cutsAt_cons.1 hcut with rfl | ⟨behind, rfl, hbehind⟩
      · exact ⟨hpiece, ⟨rest, List.append_assoc _ _ _⟩, clears_head before⟩
      · obtain ⟨hbefore, ⟨after, rfl⟩, hclear⟩ := (ih behind).1 hbehind
        refine ⟨hplace.trans hbefore, ⟨after, ?_⟩, clears_cons.2 hclear⟩
        simp only [List.append_assoc]
    · rintro ⟨hbefore, hfound, hclear⟩
      obtain ⟨beyond, rfl⟩ := passes.prefix_of_level hbefore hfound
      by_cases hempty : beyond = []
      · rw [hempty, List.append_nil]
        exact cutsAt_cons.2 (.inl rfl)
      · -- the delimiter of the first cut is cut out in front of the place
        have hlength := hclear piece (cutsAt_cons.2 (.inl rfl)) (by
          rw [List.length_append]
          exact Nat.lt_add_of_pos_right (List.length_pos_iff.2 hempty))
        obtain ⟨after, htext⟩ := hfound
        rw [List.append_assoc, List.append_assoc, List.append_cancel_left_eq] at htext
        rw [List.length_append, List.length_append, Nat.add_le_add_iff_left] at hlength
        obtain ⟨behind, rfl⟩ := List.prefix_of_prefix_length_le (List.prefix_append cutout rest)
          (htext ▸ List.prefix_append beyond _) hlength
        rw [List.append_assoc, List.append_cancel_left_eq, ← List.append_assoc] at htext
        exact cutsAt_cons.2 (.inr ⟨behind, rfl, (ih behind).2
          ⟨hplace ▸ hbefore, ⟨after, htext⟩, clears_cons.1 hclear⟩⟩)

end Splits

/-- The scan for a text as it is written cuts where the delimiter is. -/
theorem exists_splits_splitTopLevel (hdelimiter : IsDelimiter id delimiter) (text : Text) :
    ∃ segments last, Splits id delimiter text segments last ∧
      splitTopLevel text delimiter false = partsOf segments last := by
  have hscan := exists_splits hdelimiter text
  rwa [List.map_id] at hscan

/-- No part is cut again. -/
theorem splitTopLevel_part {part : Text} (hdelimiter : IsDelimiter id delimiter)
    (hpart : part ∈ splitTopLevel text delimiter false) (hne : part ≠ []) :
    splitTopLevel part delimiter false = [part] := by
  have hcuts : ∀ text, Cuts id delimiter text (splitTopLevel text delimiter false) := by
    intro text
    have hscan := cuts_splitFrom hdelimiter text
    rwa [List.map_id] at hscan
  have hspares := ((hcuts text).of_mem hdelimiter hpart).1
  have hpartCuts := hcuts part
  rcases hpartCuts.eq_of_spares hspares with hnone | hsingle
  · rw [hnone] at hpartCuts
    cases hpartCuts
    exact absurd rfl hne
  · exact hsingle

/-- A text is cut exactly at the delimiters outside parentheses, taken from left to right without
overlap. Its parts with the delimiter between them are the text again, without the last delimiter
exactly if an empty segment comes after it, and no part is cut again. -/
theorem splitTopLevel_exact (text delimiter : Text) (htext : text ≠ []) (hdelimiter : delimiter ≠ [])
    (hplain : ∀ c ∈ delimiter, c ≠ .char '(' ∧ c ≠ .char ')') :
    ∃ segments last, splitTopLevel text delimiter false = partsOf segments last ∧
      delimiter.intercalate (segments ++ [last]) = text ∧
      delimiter.intercalate (splitTopLevel text delimiter false) ++
        (if last = [] then delimiter else []) = text ∧
      (∀ before, CutsAt delimiter segments before ↔
        nesting before = 0 ∧ before ++ delimiter <+: text ∧ Clears delimiter segments before) ∧
      ∀ part ∈ splitTopLevel text delimiter false, part ≠ [] →
        splitTopLevel part delimiter false = [part] := by
  have hkind : IsDelimiter id delimiter := ⟨hdelimiter, hplain⟩
  obtain ⟨segments, last, hsplits, hparts⟩ := exists_splits_splitTopLevel hkind text
  refine ⟨segments, last, hparts, hsplits.intercalate_eq, ?_, hsplits.cutsAt_iff hkind,
    fun part hpart hne => splitTopLevel_part hkind hpart hne⟩
  rw [hparts]
  exact hsplits.intercalate_partsOf htext

/-- A text with a delimiter inside parentheses, an overlapping one, and one at its end. -/
theorem overlapping_delimiters_cut :
    ∃ segments last, partsOf segments last = ["a", "-(b--c)", ""] ∧
      List.intercalate ("--" : Text) (segments ++ [last]) = "a---(b--c)----" ∧
      ∀ before, CutsAt "--" segments before ↔ nesting before = 0 ∧
        before ++ ("--" : Text) <+: "a---(b--c)----" ∧ Clears "--" segments before := by
  obtain ⟨segments, last, hparts, hwhole, -, hcuts, -⟩ :=
    splitTopLevel_exact "a---(b--c)----" "--" (by decide) (by decide) (by decide)
  have hread : splitTopLevel "a---(b--c)----" "--" false = ["a", "-(b--c)", ""] := by decide +kernel
  exact ⟨segments, last, hparts.symm.trans hread, hwhole, hcuts⟩

end Breakpoint.Query
