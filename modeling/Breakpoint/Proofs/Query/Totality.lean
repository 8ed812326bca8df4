import Breakpoint.Proofs.Query.Depth
import Breakpoint.Proofs.Query.Evaluation
import Breakpoint.Proofs.Query.Numerals

/-!
# What is in the way of an answer

Every text is read or rejected with one record, if the stack has room for its readings, and what was
read has an answer in all surroundings. Nothing else that could fail on the way does. The parts of a
text that is cut are some, so there is a first tree to join the others to. The numbers are taken from
pieces of the text that the reader of free text reads. A width or a ratio is compared with a number,
and a ratio divides by zero nowhere.
-/

namespace Breakpoint

/-- The quotient of two numbers. By zero there is none. -/
def quotient? (numerator denominator : Float) : Option Float :=
  if denominator == 0 then none else some (numerator / denominator)

/-- A ratio is the quotient of its sides, unless the second side is zero. -/
theorem quotient?_eq_some_signedRatio (isNegative : Bool) (numerator denominator : Float) :
    (denominator == 0) = true ∨
      quotient? numerator denominator = some (signedRatio isNegative numerator denominator) := by
  cases hzero : denominator == 0 with
  | true => exact .inl rfl
  | false =>
    right
    rw [quotient?, signedRatio, hzero]
    rfl

namespace Query

/-- The numbers of a text that is read are held by the text. -/
theorem holdsNumber_of_parse {text : Text} {tree : Query} {test : Feature} {value : Float}
    (h : parse text = .ok tree) (htest : test ∈ tree.features)
    (hvalue : test.operand = .number value) : HoldsNumber text value := by
  obtain ⟨piece, hpiece, hwrites⟩ := writesFeature_of_parse h test htest
  exact (holdsNumber_of_feature? hwrites hvalue).mono hpiece

/-- What a reading that ends gives: one record, or a query that lacks no node, whose numbers are held
by the text, and which has an answer in all surroundings. -/
theorem rejected_or_answers_of_ends {room : Nat} {text : Text}
    (h : parseWithin room text ≠ .error .tooDeep) :
    (∃ fault, parseLogged room text = .ok (none, [rejection text fault])) ∨
      ∃ tree, parseLogged room text = .ok (some tree, []) ∧ tree.IsComplete ∧
        (∀ test ∈ tree.features, ∀ value, test.operand = .number value → HoldsNumber text value) ∧
        ∀ surroundings, ∃ isMatch, tree.evaluate surroundings = .ok isMatch := by
  have hsame := parseWithin_eq_parse h
  cases hread : parseWithin room text with
  | error fault =>
    cases fault with
    | tooDeep => exact absurd hread h
    | part fault =>
      left
      exact ⟨fault, by rw [parseLogged, hread]⟩
  | ok tree =>
    have hparse := hsame.symm.trans hread
    right
    refine ⟨tree, by rw [parseLogged, hread], isComplete_of_parse hparse,
      fun test htest value => holdsNumber_of_parse hparse htest, ?_⟩
    exact evaluate_isOk (readsAs_iff.2 (parse?_eq_some_iff.2 hparse).symm)

/-- Every text needs some room, no more than one reading for each code point and one for the whole.
With less room its reading is a fault. With that room or more it is rejected with one record, or is
read without one as a query that lacks no node, whose numbers are held by the text, and which has an
answer in all surroundings. Wherever a ratio divides, there is a quotient. -/
theorem rejected_or_answers (text : Text) :
    (∃ need ≤ text.length + 1, ∀ room,
      (room < need → parseLogged room text = .error .tooDeep) ∧
      (need ≤ room →
        (∃ fault, parseLogged room text = .ok (none, [rejection text fault])) ∨
        ∃ tree, parseLogged room text = .ok (some tree, []) ∧ tree.IsComplete ∧
          (∀ test ∈ tree.features, ∀ value, test.operand = .number value → HoldsNumber text value) ∧
          ∀ surroundings, ∃ isMatch, tree.evaluate surroundings = .ok isMatch)) ∧
    ∀ isNegative numerator denominator, (denominator == 0) = true ∨
      quotient? numerator denominator = some (signedRatio isNegative numerator denominator) := by
  refine ⟨?_, quotient?_eq_some_signedRatio⟩
  obtain ⟨need, hneed, hroom⟩ := exists_room text
  refine ⟨need, hneed, fun room => ⟨fun hless => ?_, fun hmore => ?_⟩⟩
  · have hdeep : parseWithin room text = .error .tooDeep :=
      not_not.1 fun hends => absurd ((hroom room).1 hends) (Nat.not_le_of_lt hless)
    rw [parseLogged, hdeep]
  · exact rejected_or_answers_of_ends ((hroom room).2 hmore)

/-- A query that the usual stack has no room for, though it has a tree. -/
theorem nested_too_deep :
    parseLogged usualRoom (nested usualRoom) = .error .tooDeep ∧
      ReadsAs (nested usualRoom) (some (negated usualRoom (.feature nestedFeature))) := by
  have hread : parseWithin (usualRoom + 1) (nested usualRoom) =
      .ok (negated usualRoom (.feature nestedFeature)) := by
    rw [parseWithin_nested, if_neg (Nat.not_succ_le_self _)]
  exact ⟨parseLogged_nested_of_le (Nat.le_refl _), usualRoom + 1, [], by rw [parseLogged, hread]⟩

/-- A query put together by hand may have no answer. -/
example : (Query.neg (.feature ⟨"height", .atLeast, .keyword "tall"⟩)).evaluate
    ⟨.ofFloat 600, .ofFloat 0, {}, {}⟩ = .error .unreadable := rfl

end Query

end Breakpoint
