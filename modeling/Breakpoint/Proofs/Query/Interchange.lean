import Breakpoint.Proofs.Query.Dependence
import Breakpoint.Proofs.Query.Vocabulary

/-!
# Overrides in place of preferences

A preference can be stated by an override or held by the host. Where the overrides state nothing of
it yet, a query that was read cannot tell the two apart. For a color scheme or a contrast both
compare words. For reduced motion the host answers by a flag instead, which comes to the same since
a query that was read asks for one of two words only: a query put together by hand may ask for
another word and get two different answers.
-/

namespace Breakpoint

open Query Text

/-- A preference that a host may hold and an override may state. -/
inductive Preference where
  | colorScheme (scheme : Text)
  | reducedMotion (isReduced : Bool)
  | contrast (level : Text)

namespace Preference

/-- The name of the feature that a preference is about. -/
def feature : Preference → Text
  | .colorScheme _ => "prefers-color-scheme"
  | .reducedMotion _ => "prefers-reduced-motion"
  | .contrast _ => "prefers-contrast"

/-- The word with which an override states a preference. -/
def word : Preference → Text
  | .colorScheme scheme => scheme
  | .reducedMotion true => "reduce"
  | .reducedMotion false => "no-preference"
  | .contrast level => level

/-- The host with a preference in place of the one that it holds. -/
def heldBy (host : Preferences) : Preference → Preferences
  | .colorScheme scheme => { host with colorScheme := scheme }
  | .reducedMotion isReduced => { host with reducedMotion := isReduced }
  | .contrast level => { host with contrast := level }

/-- The features that preferences are about may be overridden. -/
theorem isOverridable_feature (preference : Preference) :
    isOverridable preference.feature = true := by
  cases preference with
  | colorScheme scheme => exact (by decide : isOverridable "prefers-color-scheme" = true)
  | reducedMotion isReduced => exact (by decide : isOverridable "prefers-reduced-motion" = true)
  | contrast level => exact (by decide : isOverridable "prefers-contrast" = true)

/-- A preference changes nothing in what other features ask a host for. -/
theorem agreeOn_heldBy {name : Text} {preference : Preference} (h : name ≠ preference.feature)
    (host : Preferences) : Preferences.AgreeOn name host (preference.heldBy host) := by
  cases preference with
  | colorScheme scheme => exact ⟨fun hsame => absurd hsame h, fun _ => rfl, fun _ => rfl⟩
  | reducedMotion isReduced => exact ⟨fun _ => rfl, fun hsame => absurd hsame h, fun _ => rfl⟩
  | contrast level => exact ⟨fun _ => rfl, fun _ => rfl, fun hsame => absurd hsame h⟩

end Preference

/-! ## The words of features that were read -/

/-- A feature that was read and is about reduced motion asks for one of its two words. -/
theorem operand_of_reducedMotion {test : Feature} (h : test.IsMeasure ∨ test.IsRendered)
    (hname : test.name = "prefers-reduced-motion") :
    test.operand = .keyword "reduce" ∨ test.operand = .keyword "no-preference" := by
  rcases h with hmeasure | ⟨feature, hfeature, word, hword, value, hrenders, rfl⟩
  · have hother : Text.ofString "prefers-reduced-motion" ∉
        (["width", "height", "aspect-ratio"] : List Text) := by decide
    rw [← hname] at hother
    exact absurd hmeasure.name hother
  · have hwords : ∀ feature ∈ keywordFeatures,
        Text.ofString feature.1 = "prefers-reduced-motion" → ∀ word ∈ feature.2,
          (Text.ofString word = "reduce" ∨ Text.ofString word = "no-preference") ∧
            word.toList.all (strayForms · == []) = true := by decide
    obtain ⟨hlisted, hplain⟩ := hwords feature hfeature hname word hword
    rw [List.all_eq_true] at hplain
    have hvalue : value = Text.ofString word :=
      hrenders.eq_of_forall fun letter hletter => beq_iff_eq.1 (hplain letter hletter)
    rw [hvalue]
    exact hlisted.imp (congrArg Operand.keyword) (congrArg Operand.keyword)

namespace Query

variable {test : Feature} {overrides : Dict Value}

/-! ## Answers -/

/-- A text is what a feature is compared with if it is the word. -/
theorem isValue_text (operand : Operand) (word : Text) :
    operand.isValue (.text word) = decide (operand = .keyword word) := by
  cases operand with
  | number value => rfl
  | keyword text =>
    rw [Bool.eq_iff_iff, decide_eq_true_eq, Operand.keyword.injEq]
    exact beq_iff_eq

/-- A host that holds a preference answers the feature like an override that states it. -/
theorem holdsForHost_heldBy {preference : Preference} (h : test.IsMeasure ∨ test.IsRendered)
    (hname : test.name = preference.feature) (host : Preferences) :
    holdsForHost test (preference.heldBy host) = test.operand.isValue (.text preference.word) := by
  have hmotion : Text.ofString "prefers-reduced-motion" ≠ "prefers-color-scheme" := by decide
  have hcontrast : Text.ofString "prefers-contrast" ≠ "prefers-color-scheme" ∧
      Text.ofString "prefers-contrast" ≠ "prefers-reduced-motion" := by decide
  rw [isValue_text, holdsForHost, hname]
  cases preference with
  | colorScheme scheme => rw [Preference.feature, if_pos rfl]; rfl
  | reducedMotion isReduced =>
    rw [Preference.feature, if_neg hmotion, if_pos rfl]
    rcases operand_of_reducedMotion h hname with hreduce | hnone
    · rw [hreduce, if_pos rfl]
      cases isReduced <;> rfl
    · rw [hnone, if_neg (by decide)]
      cases isReduced <;> rfl
  | contrast level =>
    rw [Preference.feature, if_neg hcontrast.1, if_neg hcontrast.2, if_pos rfl]; rfl

/-- A feature that was read has the same outcome under an override as for a host that holds the
preference which the override states. -/
theorem holdsFeature_heldBy {preference : Preference} (h : test.IsMeasure ∨ test.IsRendered)
    (hfree : Overrides.stated? overrides preference.feature = none) (width height : Extent)
    (host : Preferences) :
    holdsFeature test ⟨width, height,
        overrides.insert preference.feature (.text preference.word), host⟩ =
      holdsFeature test ⟨width, height, overrides, preference.heldBy host⟩ := by
  by_cases hname : test.name = preference.feature
  · have hoverridable : isOverridable test.name = true := by
      rw [hname]
      exact preference.isOverridable_feature
    have hstated : Overrides.stated?
        (overrides.insert preference.feature (.text preference.word)) preference.feature =
          some (.text preference.word) := by
      rw [Overrides.stated?, Dict.get?_insert, if_pos rfl]
    rw [holdsFeature_of_isOverridable hoverridable, holdsFeature_of_isOverridable hoverridable,
      holdsStatic_eq, holdsStatic_eq, hname, hstated, hfree]
    exact congrArg Except.ok (holdsForHost_heldBy h hname host).symm
  · exact holdsFeature_congr width height fun _ =>
      .insert_of_ne _ hname (preference.agreeOn_heldBy hname host)

/-- Where the overrides state nothing of a preference, a query that was read has the same outcome
under an override that states it as for a host that holds it. -/
theorem evaluate_stated_eq_held {text : Text} {query : Query} (hread : ReadsAs text (some query))
    (preference : Preference) (width height : Extent)
    (hfree : Overrides.stated? overrides preference.feature = none) (host : Preferences) :
    query.evaluate ⟨width, height,
        overrides.insert preference.feature (.text preference.word), host⟩ =
      query.evaluate ⟨width, height, overrides, preference.heldBy host⟩ := by
  apply evaluate_congr
  intro test htest
  have hparse := parse?_eq_some_iff.1 (readsAs_iff.1 hread).symm
  exact holdsFeature_heldBy (comesFrom_of_parse hparse test htest).read hfree width height host

/-- An override that states no preference of motion, in place of a host that has none and beside
another override. The host itself prefers less motion. -/
theorem motion_stated_or_held :
    let query : Query := .conj (.neg (.feature ⟨"prefers-reduced-motion", .exactly, .keyword "reduce"⟩))
      (.feature ⟨"prefers-color-scheme", .exactly, .keyword "dark"⟩)
    let size : Extent := .ofFloat 600
    let overrides : Dict Value := ⟨[("prefers-color-scheme", .text "dark")]⟩
    let host : Preferences := { reducedMotion := true }
    query.evaluate ⟨size, size,
        overrides.insert "prefers-reduced-motion" (.text "no-preference"), host⟩ = .ok true ∧
      query.evaluate ⟨size, size, overrides, { host with reducedMotion := false }⟩ = .ok true ∧
      query.evaluate ⟨size, size, overrides, host⟩ = .ok false := by
  intro query size overrides host
  have hread : ReadsAs "not (prefers-reduced-motion: REDUCE) and (prefers-color-scheme: Dar\u212a)"
      (some query) := ⟨3, [], rfl⟩
  have hfree : Overrides.stated? overrides (Preference.feature (.reducedMotion false)) = none := rfl
  have hsame := evaluate_stated_eq_held hread (.reducedMotion false) size size hfree host
  have hheld : query.evaluate ⟨size, size, overrides, { host with reducedMotion := false }⟩ =
      .ok true := rfl
  exact ⟨hsame.trans hheld, hheld, rfl⟩

/-- A query put together by hand can tell a preference that is stated from one that is held. -/
example :
    let query : Query := .feature ⟨"prefers-reduced-motion", .exactly, .keyword "slow"⟩
    query.evaluate ⟨.ofFloat 600, .ofFloat 600,
        ⟨[("prefers-reduced-motion", .text "no-preference")]⟩, {}⟩ = .ok false ∧
      query.evaluate ⟨.ofFloat 600, .ofFloat 600, {}, { reducedMotion := false }⟩ = .ok true :=
  ⟨rfl, rfl⟩

end Query

end Breakpoint
