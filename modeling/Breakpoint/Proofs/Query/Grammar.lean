import Breakpoint.Proofs.Query.Stages

/-!
# Every written query is read

Reading a query takes off the blanks and a media type, then cuts at the commas, then at the
conjunctions, and then takes off the negations; each part is read like a whole again. Each level
cuts exactly where the separators of that level are written, so the tree of the whole is put
together from the trees of the parts.
-/

namespace Breakpoint.Written

open Breakpoint.Text Breakpoint.Query

/-- A text is split at commas as it is written. -/
theorem splitTopLevel_comma (text : Text) :
    splitTopLevel text "," false = splitFrom [.char ','] 1 0 0 [] (text.map id) text := by
  rw [List.map_id]
  rfl

/-- A plain text is split at conjunctions in its lower case. -/
theorem splitTopLevel_conjunction {text : Text} (h : ∀ c ∈ text, IsPlain c) :
    splitTopLevel text " and " true =
      splitFrom conjunction 5 0 0 [] (text.map lowerPlain) text := by
  rw [splitTopLevel, if_pos rfl, lower_of_isPlain h]
  rfl

/-- A text that is one segment is not cut. -/
theorem cuts?_eq_none {text delimiter : Text} {ignoreCase : Bool}
    (h : splitTopLevel text delimiter ignoreCase = [text]) :
    cuts? text delimiter ignoreCase = none := by
  simp [cuts?, h]

/-- A text with another segment than itself is cut. -/
theorem cuts?_eq_some {text delimiter : Text} {ignoreCase : Bool} {parts : List Text}
    (h : splitTopLevel text delimiter ignoreCase = parts) (hempty : parts ≠ [])
    (hne : parts ≠ [text]) : cuts? text delimiter ignoreCase = some parts := by
  simp [cuts?, h, hempty, hne]

/-- Parts that are each read are read one after the other. -/
theorem mapM_of_forall₂ {α β μ ε : Type} {read : α → Except ε β} {result : μ → β}
    {writes : α → μ → Prop} {parts : List α} {written : List μ}
    (h : List.Forall₂ writes parts written)
    (hread : ∀ part member, writes part member → read part = .ok (result member)) :
    parts.mapM read = .ok (written.map result) := by
  induction h with
  | nil => rfl
  | cons hfirst _ ih =>
    rw [List.mapM_cons, hread _ _ hfirst, ih]
    rfl

/-- A text that is cut at commas is read part by part. -/
theorem parseWithin_of_comma {text working : Text} {parts : List Text}
    (hworking : Query.dropMediaType (trim text) = working)
    (hcuts : cuts? working "," false = some parts) (room : Nat) :
    parseWithin (room + 1) text = (parts.mapM (parseWithin room)).map (joinLeft .disj) := by
  simp only [parseWithin, parseStep, hworking, hcuts]

/-- A text that is cut at conjunctions only is read part by part. -/
theorem parseWithin_of_conjunction {text working : Text} {parts : List Text}
    (hworking : Query.dropMediaType (trim text) = working)
    (hcomma : cuts? working "," false = none)
    (hcuts : cuts? working " and " true = some parts) (room : Nat) :
    parseWithin (room + 1) text = (parts.mapM (parseWithin room)).map (joinLeft .conj) := by
  simp only [parseWithin, parseStep, hworking, hcomma, hcuts]

/-- A single term is not cut, so its negations are taken off. -/
theorem Term.parseWithin_eq (term : Term) {text : Text}
    (hworking : dropMediaType (trim text) = term.text) (room : Nat) :
    parseWithin (room + 1) text =
      match term.negations.length with
      | 0 => Query.parseClause term.clause.text
      | count + 1 => (parseWithin room term.clause.text).map (Query.negated (count + 1)) := by
  have hne := term.beginsTerm.ne_nil
  have hcomma : cuts? term.text "," false = none := by
    apply cuts?_eq_none
    rw [splitTopLevel_comma]
    exact splitFrom_last (term.uncut_comma []) hne 1
  have hconjunction : cuts? term.text " and " true = none := by
    apply cuts?_eq_none
    rw [splitTopLevel_conjunction term.isPlain]
    exact splitFrom_last (term.uncut_conjunction []) hne 5
  have hcount : term.negations.length ≤ term.text.length := term.length_negations_le
  simp only [parseWithin, parseStep, hworking, hcomma, hconjunction, term.stripNots hcount]
  cases term.negations.length <;> rfl

/-- A clause is read as its feature, with room for one reading. -/
theorem Clause.parseWithin (clause : Clause) (room : Nat) :
    Query.parseWithin (room + 1) clause.text = .ok (.feature clause.feature) := by
  have hworking := Term.working ⟨[], clause⟩ Blanks.none Blanks.none
  rw [Blanks.none, List.nil_append, List.append_nil] at hworking
  exact (Term.parseWithin_eq ⟨[], clause⟩ hworking room).trans clause.parseClause

/-- A term is read as its tree, with room for two readings. -/
theorem Term.parseWithin (term : Term) {text : Text}
    (hworking : dropMediaType (trim text) = term.text) (room : Nat) :
    Query.parseWithin (room + 2) text = .ok term.tree := by
  rw [term.parseWithin_eq hworking, Term.tree]
  cases term.negations.length with
  | zero => exact term.clause.parseClause
  | succ count =>
    simp only [term.clause.parseWithin room]
    rfl

/-- The scan for conjunctions cuts a list of terms into the terms, with blanks around them. -/
theorem pieces_of_terms (before : Blanks) (first : Term) (others : List (Joint × Term)) :
    List.Forall₂ (fun piece (term : Term) =>
        ∃ before after : Blanks, piece = before.text ++ term.text ++ after.text)
      (splitFrom conjunction 5 0 0 []
        ((before.text ++ joined Joint.text Term.text first others).map lowerPlain)
        (before.text ++ joined Joint.text Term.text first others))
      (members first others) := by
  induction others generalizing before first with
  | nil =>
    have hpiece : Uncut lowerPlain conjunction (before.text ++ first.text) [] := by
      apply Uncut.append
      · rw [List.append_nil]
        exact before.uncut_conjunction first.beginsTerm.head_lowerPlain
      · exact first.uncut_conjunction []
    rw [joined, List.flatMap_nil, List.append_nil,
      splitFrom_last hpiece (by simp [first.beginsTerm.ne_nil])]
    exact .cons ⟨before, Blanks.none, by rw [Blanks.none, List.append_nil]⟩ .nil
  | cons other others ih =>
    obtain ⟨joint, next⟩ := other
    have htext : before.text ++ joined Joint.text Term.text first ((joint, next) :: others) =
        before.text ++ first.text ++ joint.before.text ++
          (joint.delimiter ++ (joint.after.text ++ joined Joint.text Term.text next others)) := by
      rw [joined_cons, Joint.text]
      simp only [List.append_assoc]
    have hpiece : Uncut lowerPlain conjunction (before.text ++ first.text ++ joint.before.text)
        (joint.delimiter ++ (joint.after.text ++ joined Joint.text Term.text next others)) := by
      apply Uncut.append
      · apply Uncut.append
        · exact before.uncut_conjunction (first.beginsTerm.append _).head_lowerPlain
        · exact first.uncut_conjunction _
      · apply joint.before.uncut_conjunction
        exact fun hsame => absurd (Option.some.inj hsame) (by decide)
    have hword : joint.word.text.map lowerPlain = "and".toList.map .char :=
      map_lowerPlain_of_spells joint.word.spells (isLower_keywords "and" (by simp))
    have hneedle : joint.delimiter.map lowerPlain = conjunction := by
      rw [Joint.delimiter, List.map_cons, List.map_append, hword]
      rfl
    have hwidth : 5 = (joint.word.text ++ [CodePoint.char ' ']).length + 1 := by
      have hlength : 3 = joint.word.text.length := joint.word.spells.length_eq
      rw [List.length_append, List.length_singleton, ← hlength]
    rw [htext]
    rw [Joint.delimiter] at hpiece hneedle ⊢
    rw [splitFrom_cut hpiece (by decide) (by decide) hneedle hwidth]
    exact .cons ⟨before, joint.before, rfl⟩ (ih joint.after next)

/-- An alternative is read as its terms joined to the left, with room for three readings. -/
theorem Alternative.parseWithin (alternative : Alternative) {text : Text}
    (hworking : Query.dropMediaType (trim text) = alternative.body) (room : Nat) :
    Query.parseWithin (room + 3) text = .ok alternative.tree := by
  have hcomma : cuts? alternative.body "," false = none := by
    apply cuts?_eq_none
    rw [splitTopLevel_comma]
    exact splitFrom_last (alternative.uncut_comma_body []) alternative.beginsTerm.ne_nil 1
  cases hothers : alternative.others with
  | nil =>
    have hbody : alternative.body = alternative.first.text := by
      rw [Alternative.body, hothers, joined, List.flatMap_nil, List.append_nil]
    have htree : alternative.tree = alternative.first.tree := by
      rw [Alternative.tree, hothers]
      rfl
    rw [htree]
    exact alternative.first.parseWithin (hworking.trans hbody) (room + 1)
  | cons other others =>
    have hpieces := pieces_of_terms Blanks.none alternative.first alternative.others
    have hsplit := splitTopLevel_conjunction alternative.isPlain_body
    have hsegments : List.Forall₂ (fun piece (term : Term) =>
        ∃ before after : Blanks, piece = before.text ++ term.text ++ after.text)
        (splitTopLevel alternative.body " and " true)
        (members alternative.first alternative.others) := hsplit ▸ hpieces
    have hlength := hsegments.length_eq
    rw [members, hothers, List.map_cons, List.length_cons, List.length_cons] at hlength
    have hconjunction : cuts? alternative.body " and " true =
        some (splitTopLevel alternative.body " and " true) := by
      apply cuts?_eq_some rfl
      · intro hempty
        simp [hempty] at hlength
      · intro hsingle
        simp [hsingle] at hlength
    have hread : (splitTopLevel alternative.body " and " true).mapM (Query.parseWithin (room + 2)) =
        .ok ((members alternative.first alternative.others).map Term.tree) := by
      apply mapM_of_forall₂ hsegments
      intro piece term hpiece
      obtain ⟨before, after, rfl⟩ := hpiece
      exact term.parseWithin (term.working before after) room
    rw [parseWithin_of_conjunction hworking hcomma hconjunction, hread]
    rfl

/-- A comma ends the segment before it. -/
theorem splitFrom_comma {piece rest : Text} (h : Uncut id [.char ','] piece (.char ',' :: rest)) :
    splitFrom [.char ','] 1 0 0 [] ((piece ++ .char ',' :: rest).map id)
        (piece ++ .char ',' :: rest) =
      piece :: splitFrom [.char ','] 1 0 0 [] (rest.map id) rest := by
  have hcut : Uncut id [.char ','] piece ([.char ','] ++ rest) := h
  exact splitFrom_cut hcut (by decide) (by decide) rfl rfl

/-- The text of a list of alternatives after the media type of the first one. -/
def rowText (first : Alternative) (others : List (Comma × Alternative))
    (trailing : Option Blanks) : Text :=
  first.body ++ (others.flatMap (fun other => other.1.text ++ other.2.text) ++ trail trailing)

/-- A row of alternatives is the first, a comma and the row of the others. -/
theorem rowText_cons (first next : Alternative) (comma : Comma)
    (others : List (Comma × Alternative)) (trailing : Option Blanks) :
    rowText first ((comma, next) :: others) trailing =
      first.body ++ (comma.before.text ++
        .char ',' :: (comma.after.text ++ next.lead ++ rowText next others trailing)) := by
  simp [rowText, Comma.text, Alternative.text]

/-- The scan for commas cuts a list of alternatives into the alternatives, with blanks around
them; a trailing comma leaves no further segment. The media type of the first one may be gone. -/
theorem pieces_of_alternatives (lead : Text) (first : Alternative)
    (others : List (Comma × Alternative)) (trailing : Option Blanks)
    (hlead : ∀ rest, Uncut id [.char ','] lead rest)
    (hworking : ∀ after : Blanks,
      Query.dropMediaType (trim (lead ++ first.body ++ after.text)) = first.body) :
    List.Forall₂ (fun piece (alternative : Alternative) =>
        Query.dropMediaType (trim piece) = alternative.body)
      (splitFrom [.char ','] 1 0 0 [] ((lead ++ rowText first others trailing).map id)
        (lead ++ rowText first others trailing))
      (members first others) := by
  induction others generalizing lead first with
  | nil =>
    have hpiece : ∀ rest, Uncut id [.char ','] (lead ++ first.body) rest :=
      fun rest => (hlead _).append (first.uncut_comma_body rest)
    cases trailing with
    | none =>
      have htext : lead ++ rowText first [] none = lead ++ first.body := by simp [rowText, trail]
      have hdrop := hworking Blanks.none
      rw [Blanks.none, List.append_nil] at hdrop
      rw [htext, splitFrom_last (hpiece []) (by simp [first.beginsTerm.ne_nil])]
      exact .cons hdrop .nil
    | some blanks =>
      have htext : lead ++ rowText first [] (some blanks) =
          lead ++ first.body ++ blanks.text ++ [.char ','] := by simp [rowText, trail]
      rw [htext, splitFrom_comma ((hpiece _).append (blanks.uncut_comma _))]
      exact .cons (hworking blanks) .nil
  | cons other others ih =>
    obtain ⟨comma, next⟩ := other
    have htext : lead ++ rowText first ((comma, next) :: others) trailing =
        lead ++ first.body ++ comma.before.text ++
          .char ',' :: (comma.after.text ++ next.lead ++ rowText next others trailing) := by
      simp only [rowText_cons, List.append_assoc]
    have hpiece := ((hlead (first.body ++ _)).append (first.uncut_comma_body _)).append
      (comma.before.uncut_comma
        (.char ',' :: (comma.after.text ++ next.lead ++ rowText next others trailing)))
    rw [htext, splitFrom_comma hpiece]
    refine .cons (hworking comma.before) ?_
    apply ih
    · intro rest
      exact (comma.after.uncut_comma _).append (next.uncut_comma_lead rest)
    · intro after
      have hdrop := next.working comma.after after next.beginsTerm next.endsBlankless_body
      rw [← List.append_assoc] at hdrop
      exact hdrop

/-- A row of alternatives begins like a term. -/
theorem rowText_beginsTerm (first : Alternative) (others : List (Comma × Alternative))
    (trailing : Option Blanks) : BeginsTerm (rowText first others trailing) :=
  first.beginsTerm.append _

/-- A list of alternatives ends with a parenthesis or a comma. -/
theorem rowText_endsBlankless (first : Alternative) (others : List (Comma × Alternative))
    (trailing : Option Blanks) : EndsBlankless (rowText first others trailing).getLast? := by
  induction others generalizing first with
  | nil =>
    cases trailing with
    | none =>
      have htext : rowText first [] none = first.body := by simp [rowText, trail]
      rw [htext]
      exact first.endsBlankless_body
    | some blanks =>
      have htext : rowText first [] (some blanks) = first.body ++ blanks.text ++ [.char ','] := by
        simp [rowText, trail]
      rw [htext, List.getLast?_append, List.getLast?_singleton]
      intro c hc
      cases hc
      decide
  | cons other others ih =>
    obtain ⟨comma, next⟩ := other
    have htext : rowText first ((comma, next) :: others) trailing =
        first.body ++ (comma.before.text ++ .char ',' :: (comma.after.text ++ next.lead)) ++
          rowText next others trailing := by
      simp [rowText_cons]
    rw [htext, List.getLast?_append_of_ne_nil _ (rowText_beginsTerm next others trailing).ne_nil]
    exact ih next

/-- A query is worked on without its outer blanks and its first media type. -/
theorem working (query : Written) :
    Query.dropMediaType (trim query.text) = rowText query.first query.others query.trailing := by
  have htext : query.text = query.before.text ++
      (query.first.lead ++ rowText query.first query.others query.trailing) ++ query.after.text := by
    simp [text, joined, Alternative.text, rowText]
  rw [htext]
  exact query.first.working _ _ (rowText_beginsTerm _ _ _) (rowText_endsBlankless _ _ _)

/-- A query is read as its alternatives joined to the left, with room for four readings. -/
theorem parseWithin (query : Written) (room : Nat) :
    Query.parseWithin (room + 4) query.text = .ok query.tree := by
  have hworking := query.working
  have hlead : ∀ rest, Uncut id [.char ','] [] rest := Uncut.nil
  have hfirst : ∀ after : Blanks,
      Query.dropMediaType (trim ([] ++ query.first.body ++ after.text)) = query.first.body := by
    intro after
    exact query.first.beginsTerm.working query.first.endsBlankless_body Blanks.none after
  have hpieces := pieces_of_alternatives [] query.first query.others query.trailing hlead hfirst
  have hsegments : List.Forall₂ (fun piece (alternative : Alternative) =>
      Query.dropMediaType (trim piece) = alternative.body)
      (splitTopLevel (rowText query.first query.others query.trailing) "," false)
      (members query.first query.others) := by
    rw [splitTopLevel_comma]
    exact hpieces
  by_cases hsingle : splitTopLevel (rowText query.first query.others query.trailing) "," false =
      [rowText query.first query.others query.trailing]
  · -- A single alternative without a trailing comma is the whole text.
    have hrow := (rowText_beginsTerm query.first query.others query.trailing).working
      (rowText_endsBlankless _ _ _) Blanks.none Blanks.none
    rw [Blanks.none, List.nil_append, List.append_nil] at hrow
    rw [hsingle, members] at hsegments
    obtain ⟨hbody, hothers⟩ := List.forall₂_cons.1 hsegments
    have hnone : query.others.map (·.2) = [] := List.forall₂_nil_left_iff.1 hothers
    have htree : query.tree = query.first.tree := by
      rw [tree, members, hnone]
      rfl
    rw [htree]
    exact query.first.parseWithin (hworking.trans (hrow.symm.trans hbody)) (room + 1)
  · have hcomma := cuts?_eq_some rfl (by
      intro hempty
      rw [hempty] at hsegments
      cases hsegments) hsingle
    have hread : (splitTopLevel (rowText query.first query.others query.trailing) "," false).mapM
        (Query.parseWithin (room + 3)) =
          .ok ((members query.first query.others).map Alternative.tree) := by
      apply mapM_of_forall₂ hsegments
      intro piece alternative hpiece
      exact alternative.parseWithin hpiece room
    rw [parseWithin_of_comma hworking hcomma, hread]
    rfl

/-- Every written query is read without a record wherever the stack has room for four readings, as
its alternatives joined to the left, each of them as its terms joined to the left, each of them as
its feature under the negations that are written before it. -/
theorem parse_text (query : Written) (room : Nat) :
    Query.parseLogged (room + 4) query.text = .ok (some query.tree, []) := by
  rw [Query.parseLogged, query.parseWithin room]

/-- A written query in capitals, with a media type, a negation and a comma at its end. -/
example : ∃ query : Written, query.text = "ALL  and NOT ( hover:none ) , " ∧
    query.tree = .neg (.feature ⟨"hover", .exactly, .keyword "none"⟩) := by
  refine ⟨⟨.none, ⟨some ⟨"all", by decide, ⟨"ALL", by repeat constructor⟩,
    ⟨⟨"  ", by decide⟩, by decide⟩, ⟨"and", by repeat constructor⟩, ⟨⟨" ", by decide⟩, by decide⟩⟩,
    ⟨[⟨⟨"NOT", by repeat constructor⟩, ⟨⟨" ", by decide⟩, by decide⟩⟩],
      ⟨" hover:none ", ⟨"hover", .exactly, .keyword "none"⟩, by decide, by decide, by decide⟩⟩,
    []⟩, [], some ⟨" ", by decide⟩, ⟨" ", by decide⟩⟩, by decide, by decide⟩

end Breakpoint.Written
