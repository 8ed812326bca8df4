import Breakpoint.Proofs.Query.Prefixes
import Breakpoint.Proofs.Query.Splitting

/-!
# Cuts outside parentheses

The depth that the scan for delimiters keeps is the number of parentheses opened so far, less
those closed. It cuts at the first delimiter that stands at depth zero, and again in the rest.
What it makes of a text is described by a relation between the text and its pieces, from which
the text can be put together again.
-/

namespace Breakpoint.Query

open Breakpoint.Text

/-- How a code point changes the depth. -/
def turn (c : CodePoint) : Int := if c = .char '(' then 1 else if c = .char ')' then -1 else 0

/-- How many more parentheses a text opens than it closes. -/
def nesting : Text → Int
  | [] => 0
  | c :: rest => turn c + nesting rest

/-- An empty text has no nesting. -/
@[simp] theorem nesting_nil : nesting [] = 0 := rfl

/-- A code point turns the nesting of what follows it. -/
@[simp] theorem nesting_cons (c : CodePoint) (rest : Text) :
    nesting (c :: rest) = turn c + nesting rest := rfl

/-- The nestings of two texts add up. -/
@[simp] theorem nesting_append (first second : Text) :
    nesting (first ++ second) = nesting first + nesting second := by
  induction first with
  | nil => simp
  | cons c first ih =>
    rw [List.cons_append, nesting_cons, ih, nesting_cons]
    omega

/-- What is no parenthesis turns nothing. -/
theorem turn_eq_zero {c : CodePoint} (hopen : c ≠ .char '(') (hclose : c ≠ .char ')') :
    turn c = 0 := by
  rw [turn, if_neg hopen, if_neg hclose]

/-- A text without parentheses leaves the depth as it is. -/
theorem nesting_eq_zero {text : Text} (h : ∀ c ∈ text, c ≠ .char '(' ∧ c ≠ .char ')') :
    nesting text = 0 := by
  induction text with
  | nil => rfl
  | cons c text ih =>
    rw [List.forall_mem_cons] at h
    rw [nesting_cons, turn_eq_zero h.1.1 h.1.2, ih h.2, Int.zero_add]

/-- A text without marks has no nesting. -/
theorem nesting_of_unmarked {text : Text} (h : ∀ c ∈ text, IsUnmarked c) : nesting text = 0 :=
  nesting_eq_zero fun c hc => ⟨(h c hc).1, (h c hc).2.1⟩

/-- What delimiters have to be like: there is something to find, and it is no parenthesis. -/
structure IsDelimiter (fold : CodePoint → CodePoint) (needle : Text) : Prop where
  nonempty : needle ≠ []
  plain : ∀ c, fold c ∈ needle → c ≠ .char '(' ∧ c ≠ .char ')'

/-- A delimiter has no parentheses. -/
theorem IsDelimiter.forall_mem {fold : CodePoint → CodePoint} {needle delimiter : Text}
    (h : IsDelimiter fold needle) (found : delimiter.map fold = needle) :
    ∀ c ∈ delimiter, c ≠ .char '(' ∧ c ≠ .char ')' := by
  intro c hc
  apply h.plain
  rw [← found]
  exact List.mem_map_of_mem hc

/-- No delimiter stands in the text outside parentheses. -/
def Spares (fold : CodePoint → CodePoint) (needle text : Text) : Prop :=
  ∀ before after, text = before ++ after → nesting before = 0 → ¬ needle <+: after.map fold

/-- No delimiter begins in the piece outside parentheses, if `rest` comes after it. -/
def Passes (fold : CodePoint → CodePoint) (needle piece rest : Text) : Prop :=
  ∀ before after, piece = before ++ after → after ≠ [] → nesting before = 0 →
    ¬ needle <+: (after ++ rest).map fold

/-- How a text is cut: at the first delimiter outside parentheses, and then the rest. -/
inductive Cuts (fold : CodePoint → CodePoint) (needle : Text) : Text → List Text → Prop where
  | empty : Cuts fold needle [] []
  | last {piece : Text} (nonempty : piece ≠ []) (spares : Spares fold needle piece) :
      Cuts fold needle piece [piece]
  | cut {piece delimiter rest : Text} {parts : List Text} (spares : Spares fold needle piece)
      (level : nesting piece = 0) (found : delimiter.map fold = needle)
      (others : Cuts fold needle rest parts) :
      Cuts fold needle (piece ++ (delimiter ++ rest)) (piece :: parts)

/-- How the scan goes through a text: it cuts where the first delimiter outside parentheses begins,
and then goes through the rest. The segments are those in front of a cut, and the last segment may
be empty. -/
inductive Splits (fold : CodePoint → CodePoint) (needle : Text) : Text → List Text → Text → Prop where
  | last {piece : Text} (passes : Passes fold needle piece []) : Splits fold needle piece [] piece
  | cut {piece delimiter rest last : Text} {segments : List Text}
      (passes : Passes fold needle piece (delimiter ++ rest)) (level : nesting piece = 0)
      (found : delimiter.map fold = needle) (others : Splits fold needle rest segments last) :
      Splits fold needle (piece ++ (delimiter ++ rest)) (piece :: segments) last

/-- The parts that the scan makes of its segments: an empty one at the end is left out. -/
def partsOf (segments : List Text) (last : Text) : List Text :=
  segments ++ if last.isEmpty then [] else [last]

variable {fold : CodePoint → CodePoint} {needle text : Text}

/-! ## Texts without delimiters -/

/-- A piece of a text has no delimiter where the text has none. -/
theorem Spares.of_isInfix {before after : Text} (h : Spares fold needle (before ++ (text ++ after)))
    (hlevel : nesting before = 0) : Spares fold needle text := by
  rintro first second rfl hfirst hfound
  apply h (before ++ first) (second ++ after)
  · simp only [List.append_assoc]
  · rw [nesting_append, hlevel, hfirst, Int.zero_add]
  · rw [List.map_append]
    exact hfound.trans (List.prefix_append _ _)

/-- Through an empty text the scan passes. -/
theorem Passes.nil (rest : Text) : Passes fold needle [] rest := by
  intro before after hsplit hne
  exact absurd (List.append_eq_nil_iff.1 hsplit.symm).2 hne

/-- One more code point is passed if no delimiter begins there outside parentheses. -/
theorem Passes.snoc {piece rest : Text} {c : CodePoint} (h : Passes fold needle piece (c :: rest))
    (hc : nesting piece = 0 → ¬ needle <+: (c :: rest).map fold) :
    Passes fold needle (piece ++ [c]) rest := by
  intro before after hsplit hne hlevel
  obtain ⟨after, last, rfl⟩ := (List.eq_nil_or_concat' after).resolve_left hne
  rw [← List.append_assoc] at hsplit
  obtain ⟨rfl, hlast⟩ := List.append_inj' hsplit rfl
  cases hlast
  rw [List.append_assoc, List.singleton_append]
  cases after with
  | nil =>
    rw [List.append_nil] at hc
    exact hc hlevel
  | cons d after => exact h before (d :: after) rfl (by simp) hlevel

/-- What is passed has no delimiter. -/
theorem Passes.spares {piece rest : Text} (h : Passes fold needle piece rest)
    (hneedle : needle ≠ []) : Spares fold needle piece := by
  intro before after hsplit hlevel hfound
  by_cases hempty : after = []
  · subst hempty
    exact hneedle (List.prefix_nil.1 hfound)
  · apply h before after hsplit hempty hlevel
    rw [List.map_append]
    exact hfound.trans (List.prefix_append _ _)

/-- A delimiter of one code point begins nowhere in a text without delimiters. -/
theorem Spares.passes {c : CodePoint} (h : Spares fold [c] text) (rest : Text) :
    Passes fold [c] text rest := by
  intro before after hsplit hne hlevel hfound
  apply h before after hsplit hlevel
  cases after with
  | nil => exact absurd rfl hne
  | cons d after =>
    rw [List.cons_append, List.map_cons, List.cons_prefix_cons] at hfound
    rw [List.map_cons, List.cons_prefix_cons]
    exact ⟨hfound.1, List.nil_prefix⟩

/-! ## The scan -/

/-- Only parentheses turn the nesting. -/
theorem turn_eq_zero_iff {c : CodePoint} : turn c = 0 ↔ c ≠ .char '(' ∧ c ≠ .char ')' := by
  refine ⟨fun h => ⟨?_, ?_⟩, fun h => turn_eq_zero h.1 h.2⟩
  · rintro rfl
    cases h
  · rintro rfl
    cases h

/-- The scan goes on at a parenthesis, inside of parentheses, and where it finds nothing. -/
theorem splitFrom_pass {shadow : Text} {depth : Int} {c : CodePoint}
    (h : ¬ (turn c = 0 ∧ depth = 0 ∧ needle <+: shadow))
    (width : Nat) (current rest : Text) :
    splitFrom needle width depth 0 current shadow (c :: rest) =
      splitFrom needle width (depth + turn c) 0 (c :: current) shadow.tail rest := by
  rw [splitFrom]
  split
  · next hopen => rw [turn, if_pos hopen]
  · next hopen =>
    split
    · next hclose => rw [turn, if_neg hopen, if_pos hclose]; rfl
    · next hclose =>
      have hturn : turn c = 0 := turn_eq_zero hopen hclose
      rw [if_neg (by rw [List.isPrefixOf_iff_prefix]; exact fun hfound => h ⟨hturn, hfound⟩), hturn,
        Int.add_zero]

/-- The scan cuts where it finds the needle outside parentheses. -/
theorem splitFrom_found {shadow : Text} {width : Nat} {c : CodePoint} (hturn : turn c = 0)
    (hfound : needle <+: shadow) (hwidth : 0 < width) (current rest : Text) :
    splitFrom needle width 0 0 current shadow (c :: rest) =
      current.reverse ::
        splitFrom needle width 0 0 [] (shadow.drop width) ((c :: rest).drop width) := by
  have hskip : ∀ (skip : Nat) (shadow text : Text),
      splitFrom needle width 0 skip [] shadow text =
        splitFrom needle width 0 0 [] (shadow.drop skip) (text.drop skip) := by
    intro skip
    induction skip with
    | zero => intro shadow text; rfl
    | succ skip ih =>
      intro shadow text
      cases text with
      | nil => rfl
      | cons c text => rw [splitFrom, ih, List.drop_tail, List.drop_succ_cons]
  obtain ⟨hopen, hclose⟩ := turn_eq_zero_iff.1 hturn
  obtain ⟨width, rfl⟩ := Nat.exists_eq_succ_of_ne_zero (Nat.ne_of_gt hwidth)
  rw [splitFrom, if_neg hopen, if_neg hclose, if_pos ⟨rfl, List.isPrefixOf_iff_prefix.2 hfound⟩,
    Nat.succ_eq_add_one, Nat.add_sub_cancel, hskip, List.drop_tail, List.drop_succ_cons]

/-- The scan goes on where no delimiter begins. -/
theorem splitFrom_step {c : CodePoint} {rest : Text} {depth : Int}
    (hnone : depth = 0 → ¬ needle <+: (c :: rest).map fold) (width : Nat) (current : Text) :
    splitFrom needle width depth 0 current ((c :: rest).map fold) (c :: rest) =
      splitFrom needle width (depth + turn c) 0 (c :: current) (rest.map fold) rest := by
  rw [splitFrom_pass (fun hcut => hnone hcut.2.1 hcut.2.2), List.map_cons, List.tail_cons]

/-- The scan goes through a piece where no delimiter begins, and keeps count of its depth. -/
theorem splitFrom_of_passes {done piece rest : Text}
    (hpasses : Passes fold needle (done ++ piece) rest) (width : Nat) (current : Text) :
    splitFrom needle width (nesting done) 0 current ((piece ++ rest).map fold) (piece ++ rest) =
      splitFrom needle width (nesting (done ++ piece)) 0 (piece.reverse ++ current)
        (rest.map fold) rest := by
  induction piece generalizing done current with
  | nil => rw [List.append_nil]; rfl
  | cons c piece ih =>
    have hnone : nesting done = 0 → ¬ needle <+: (c :: (piece ++ rest)).map fold :=
      hpasses done (c :: piece) rfl (by simp)
    have hsplit : done ++ c :: piece = done ++ [c] ++ piece := by simp
    have hdepth : nesting done + turn c = nesting (done ++ [c]) := by simp
    rw [hsplit] at hpasses ⊢
    rw [List.cons_append, splitFrom_step hnone, hdepth, ih hpasses, List.reverse_cons,
      List.append_assoc piece.reverse, List.singleton_append]

/-- A piece where no delimiter begins and that closes what it opens is not cut. -/
theorem Passes.uncut {piece rest : Text}
    (hpasses : Passes fold needle piece rest) (hlevel : nesting piece = 0) :
    Uncut fold needle piece rest := by
  intro width current
  have hscan := @splitFrom_of_passes _ _ [] _ _ hpasses width current
  rwa [List.nil_append, hlevel] at hscan

/-- The scan goes through a text after what it has passed so far. -/
theorem exists_splits_of_passes (h : IsDelimiter fold needle) {piece : Text}
    (hpasses : Passes fold needle piece text) :
    ∃ segments last, Splits fold needle (piece ++ text) segments last ∧
      splitFrom needle needle.length (nesting piece) 0 piece.reverse (text.map fold) text =
        partsOf segments last := by
  -- After a cut the scan goes on behind the delimiter, so the induction is on the length.
  induction hlength : text.length using Nat.strong_induction_on generalizing text piece with
  | _ length ih =>
    cases text with
    | nil =>
      refine ⟨[], piece, ?_, ?_⟩
      · rw [List.append_nil]
        exact .last hpasses
      · rw [splitFrom, partsOf, List.isEmpty_reverse, List.reverse_reverse, List.nil_append]
    | cons c rest =>
      by_cases hcut : nesting piece = 0 ∧ needle <+: (c :: rest).map fold
      · obtain ⟨hlevel, found⟩ := hcut
        rw [List.prefix_map_iff] at found
        obtain ⟨delimiter, ⟨after, hafter⟩, hfound⟩ := found
        cases delimiter with
        | nil => exact absurd hfound h.nonempty
        | cons first delimiter =>
          rw [← hafter] at hpasses hlength ⊢
          have hplain := h.plain first (by rw [hfound]; simp)
          have hpiece : Uncut fold needle piece (first :: delimiter ++ after) := hpasses.uncut hlevel
          have hwidth : needle.length = delimiter.length + 1 := by rw [hfound]; simp
          have hscan := splitFrom_cut hpiece hplain.1 hplain.2 hfound.symm hwidth
          rw [hpiece, List.append_nil] at hscan
          have hshorter : after.length < length := by
            rw [← hlength]
            simp only [List.length_cons, List.length_append]
            omega
          obtain ⟨segments, last, hsplits, hparts⟩ := ih _ hshorter (Passes.nil after) rfl
          refine ⟨piece :: segments, last, .cut hpasses hlevel hfound.symm hsplits, ?_⟩
          rw [hlevel, hscan]
          exact congrArg (piece :: ·) hparts
      · have hnone : nesting piece = 0 → ¬ needle <+: (c :: rest).map fold :=
          fun hlevel hfound => hcut ⟨hlevel, hfound⟩
        have hdepth : nesting piece + turn c = nesting (piece ++ [c]) := by simp
        have hnext := ih _ (by rw [← hlength]; simp) (hpasses.snoc hnone) rfl
        rw [splitFrom_step hnone, hdepth]
        rwa [List.append_assoc, List.singleton_append, List.reverse_append, List.reverse_singleton,
          List.singleton_append] at hnext

/-- The scan goes through a text from its start. -/
theorem exists_splits (h : IsDelimiter fold needle) (text : Text) :
    ∃ segments last, Splits fold needle text segments last ∧
      splitFrom needle needle.length 0 0 [] (text.map fold) text = partsOf segments last :=
  exists_splits_of_passes h (Passes.nil text)

/-- The pieces of a text are the parts that the scan makes of its segments. -/
theorem Splits.cuts {segments : List Text} {last : Text} (h : Splits fold needle text segments last)
    (hneedle : needle ≠ []) : Cuts fold needle text (partsOf segments last) := by
  induction h with
  | @last piece passes =>
    cases piece with
    | nil => exact .empty
    | cons c piece => exact .last (List.cons_ne_nil c piece) (passes.spares hneedle)
  | cut passes level found _ ih => exact .cut (passes.spares hneedle) level found ih

/-- The scan cuts a text at its delimiters outside parentheses. -/
theorem cuts_splitFrom (h : IsDelimiter fold needle) (text : Text) :
    Cuts fold needle text (splitFrom needle needle.length 0 0 [] (text.map fold) text) := by
  obtain ⟨segments, last, hsplits, hparts⟩ := exists_splits h text
  rw [hparts]
  exact hsplits.cuts h.nonempty

/-! ## The pieces of a text -/

namespace Cuts

variable {parts : List Text}

/-- A text without delimiters is one piece, unless it is empty. -/
theorem eq_of_spares (h : Cuts fold needle text parts) (hspares : Spares fold needle text) :
    parts = [] ∨ parts = [text] := by
  cases h with
  | empty => exact .inl rfl
  | last => exact .inr rfl
  | cut _ level found _ =>
    exfalso
    apply hspares _ _ rfl level
    rw [List.map_append, found]
    exact List.prefix_append _ _

/-- A text that is one piece, or none, has no delimiters. -/
theorem spares_of_eq (h : Cuts fold needle text parts) (hneedle : needle ≠ [])
    (hparts : parts = [] ∨ parts = [text]) : Spares fold needle text := by
  cases h with
  | empty => exact (Passes.nil []).spares hneedle
  | last _ spares => exact spares
  | cut _ _ found _ =>
    rcases hparts with hempty | hwhole
    · cases hempty
    · have hlength := congrArg List.length (List.cons_eq_cons.1 hwhole).1
      have hpositive := List.length_pos_iff.2 hneedle
      rw [← found, List.length_map] at hpositive
      simp only [List.length_append] at hlength
      omega

/-- Each piece stands in the text outside parentheses and has no delimiters. -/
theorem of_mem (h : Cuts fold needle text parts) (hdelimiter : IsDelimiter fold needle) {part : Text}
    (hpart : part ∈ parts) : Spares fold needle part ∧
      ∃ before after, text = before ++ (part ++ after) ∧ nesting before = 0 := by
  induction h with
  | empty => cases hpart
  | last _ spares =>
    cases List.mem_singleton.1 hpart
    exact ⟨spares, [], [], by simp, rfl⟩
  | @cut piece delimiter rest parts spares level found _ ih =>
    rcases List.mem_cons.1 hpart with rfl | hpart
    · exact ⟨spares, [], delimiter ++ rest, rfl, rfl⟩
    · obtain ⟨hspares, before, after, rfl, hbefore⟩ := ih hpart
      have hbetween : nesting delimiter = 0 := nesting_eq_zero (hdelimiter.forall_mem found)
      refine ⟨hspares, piece ++ (delimiter ++ before), after, by simp only [List.append_assoc], ?_⟩
      simp [level, hbetween, hbefore]

end Cuts

/-- A text is not cut if it has no delimiters. -/
theorem cuts?_eq_none_iff {delimiter : Text} {ignoreCase : Bool} (hneedle : needle ≠ [])
    (h : Cuts fold needle text (splitTopLevel text delimiter ignoreCase)) :
    cuts? text delimiter ignoreCase = none ↔ Spares fold needle text := by
  have hnone : cuts? text delimiter ignoreCase = none ↔
      splitTopLevel text delimiter ignoreCase = [] ∨
        splitTopLevel text delimiter ignoreCase = [text] := by
    simp only [cuts?, ite_eq_left_iff, reduceCtorEq, imp_false, not_not, Bool.or_eq_true,
      List.isEmpty_iff, beq_iff_eq]
  rw [hnone]
  exact ⟨h.spares_of_eq hneedle, h.eq_of_spares⟩

/-- The parts that a text is read by are the pieces of the scan. -/
theorem cuts_of_cuts? {delimiter : Text} {ignoreCase : Bool} {parts : List Text}
    (h : Cuts fold needle text (splitTopLevel text delimiter ignoreCase))
    (hparts : cuts? text delimiter ignoreCase = some parts) : Cuts fold needle text parts := by
  rw [cuts?] at hparts
  split at hparts
  · cases hparts
  · cases hparts
    exact h

end Breakpoint.Query
