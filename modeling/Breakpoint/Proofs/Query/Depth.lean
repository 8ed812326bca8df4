import Mathlib.Data.Nat.Find
import Breakpoint.Proofs.Query.Negations

/-!
# How deep a query nests

For every text there is a least room in which its reading ends; it is no more than one reading for
each code point and one for the whole. No room is enough for all texts: below a negation a media type
may be taken off, and another negation comes to light, any number of times.
-/

namespace Breakpoint.Query

open Breakpoint.Text

/-- A text has a least room in which its reading ends, and it ends in every larger one. -/
theorem exists_room (text : Text) :
    ∃ need ≤ text.length + 1, ∀ room, parseWithin room text ≠ .error .tooDeep ↔ need ≤ room := by
  classical
  have hends : ∃ room, parseWithin room text ≠ .error .tooDeep :=
    ⟨text.length + 1, parse_ne_tooDeep text⟩
  refine ⟨Nat.find hends, Nat.find_min' hends (parse_ne_tooDeep text), fun room => ?_⟩
  constructor
  · exact Nat.find_min' hends
  · intro hmore
    have hleast := Nat.find_spec hends
    rwa [(parseWithin_follows hmore text).resolve_left hleast] at hleast

/-- A query with so many negations, and a media type before each of them and before its feature. -/
def nested : Nat → Text
  | 0 => "all\tand\t(hover:none)"
  | depth + 1 => "all\tand\tnot\t" ++ nested depth

/-- The feature at the end of a nested query. -/
def nestedFeature : Feature := ⟨"hover", .exactly, .keyword "none"⟩

/-- A nested query has neither spaces nor commas, and no letter but small ones of ASCII text. -/
theorem mem_nested {depth : Nat} {c : CodePoint} (h : c ∈ nested depth) :
    c ∈ ("all\tand\tnot\t(hover:none)" : Text) := by
  induction depth with
  | zero => exact (by decide : ∀ c ∈ nested 0, c ∈ ("all\tand\tnot\t(hover:none)" : Text)) c h
  | succ depth ih =>
    rcases List.mem_append.1 h with hlead | hrest
    · exact (by decide : ∀ c ∈ ("all\tand\tnot\t" : Text),
        c ∈ ("all\tand\tnot\t(hover:none)" : Text)) c hlead
    · exact ih hrest

/-- A nested query ends with the parenthesis of its feature. -/
theorem getLast?_nested (depth : Nat) : (nested depth).getLast? = some (.char ')') := by
  induction depth with
  | zero => rfl
  | succ depth ih => rw [nested, List.getLast?_append, ih, Option.some_or]

/-- A nested query has no blanks around it. -/
theorem trim_nested (depth : Nat) : trim (nested depth) = nested depth := by
  apply trim_eq_self
  · cases depth <;> exact fun c hc => by cases hc; decide
  · rw [getLast?_nested]
    exact fun c hc => by cases hc; decide

/-- The negation is what a nested query is worked on as. -/
theorem working_nested (depth : Nat) :
    dropMediaType (trim (nested (depth + 1))) = "not\t" ++ nested depth := by
  rw [trim_nested]
  cases depth <;> rfl

/-- Text of the letters of a nested query is cut nowhere. -/
theorem cuts?_eq_none_of_mem {text : Text}
    (h : ∀ c ∈ text, c ∈ ("all\tand\tnot\t(hover:none)" : Text)) :
    cuts? text "," false = none ∧ cuts? text " and " true = none := by
  have hdotless : .char 'İ' ∉ text := fun hdotted => absurd (h _ hdotted) (by decide)
  rw [cuts?_comma_eq_none_iff, cuts?_conjunction_eq_none_iff hdotless]
  have hspares : ∀ {fold : CodePoint → CodePoint} {c : CodePoint} {needle : Text},
      (∀ d ∈ ("all\tand\tnot\t(hover:none)" : Text), fold d ≠ c) → Spares fold (c :: needle) text := by
    intro fold c needle hfold before after htext _ hbegins
    obtain ⟨d, hd, hsame⟩ := List.mem_map.1 (hbegins.subset List.mem_cons_self)
    exact hfold d (h d (htext ▸ List.mem_append_right before hd)) hsame
  exact ⟨hspares (by decide), hspares (by decide)⟩

/-- Below its first negation, a nested query is read as one that nests less. -/
theorem parseWithin_nested_succ (room depth : Nat) :
    parseWithin (room + 1) (nested (depth + 1)) =
      (parseWithin room (nested depth)).map (negated 1) := by
  have hhead : EndsBlankless (nested depth).head? := by
    cases depth <;> exact fun c hc => by cases hc; decide
  have hnone : afterNot? (nested depth) = none := by cases depth <;> rfl
  have hgap : IsGap "\t" := ⟨by decide, by decide⟩
  have hstrip : stripNots (dropMediaType (trim (nested (depth + 1)))).length
      (dropMediaType (trim (nested (depth + 1)))) = (1, nested depth) := by
    rw [working_nested]
    exact stripNots_negation hgap hhead (stripNots_of_afterNot? hnone _)
  have hletters : ∀ c ∈ dropMediaType (trim (nested (depth + 1))),
      c ∈ ("all\tand\tnot\t(hover:none)" : Text) :=
    fun _ hc => mem_nested (mem_of_mem_working hc)
  obtain ⟨hcomma, hconjunction⟩ := cuts?_eq_none_of_mem hletters
  rw [parseWithin_succ]
  simp only [parseStep, hcomma, hconjunction, hstrip]

/-- A nested query is read if there is room for a reading below each of its negations. -/
theorem parseWithin_nested (room depth : Nat) :
    parseWithin room (nested depth) =
      if room ≤ depth then .error .tooDeep else .ok (negated depth (.feature nestedFeature)) := by
  induction room generalizing depth with
  | zero =>
    rw [if_pos (Nat.zero_le depth)]
    rfl
  | succ room ih =>
    cases depth with
    | zero => rfl
    | succ depth =>
      rw [parseWithin_nested_succ, ih]
      by_cases hroom : room ≤ depth
      · rw [if_pos hroom, if_pos (Nat.succ_le_succ hroom)]
        rfl
      · rw [if_neg hroom, if_neg fun hless => hroom (Nat.le_of_succ_le_succ hless), negated_succ]
        rfl

/-- A nested query without the room that it needs is a fault. -/
theorem parseLogged_nested_of_le {room depth : Nat} (h : room ≤ depth) :
    parseLogged room (nested depth) = .error .tooDeep := by
  rw [parseLogged, parseWithin_nested, if_pos h]

end Breakpoint.Query
