import Breakpoint.Proofs.Query.Chains

/-!
# What the outcome of a query depends on

Apart from the size, a query asks its surroundings for its overridable features alone: for the value
that the overrides state for the feature, and where they state none, for the preference of the host
that the feature is about. Surroundings that tell the same of these features give the same outcome,
an answer or a fault, whichever features are left out because others settle the answer.
-/

namespace Breakpoint

open Query

/-- The value that overrides state for a feature. An entry that is null states none. -/
def Overrides.stated? (overrides : Dict Value) (name : Text) : Option Value :=
  match overrides.get? name with
  | none | some .null => none
  | some value => some value

/-- Two hosts prefer the same as far as a feature asks for it. -/
structure Preferences.AgreeOn (name : Text) (first second : Preferences) : Prop where
  colorScheme : name = "prefers-color-scheme" → first.colorScheme = second.colorScheme
  reducedMotion : name = "prefers-reduced-motion" → first.reducedMotion = second.reducedMotion
  contrast : name = "prefers-contrast" → first.contrast = second.contrast

/-- Overrides with a host and others with another host tell the same of a feature: both overrides
state the same value, or neither states one and the hosts agree on the feature. -/
structure TellAlike (name : Text) (overrides others : Dict Value) (host other : Preferences) :
    Prop where
  stated : Overrides.stated? overrides name = Overrides.stated? others name
  preferred : Overrides.stated? overrides name = none → Preferences.AgreeOn name host other

variable {name : Text} {overrides others : Dict Value} {host other : Preferences} {test : Feature}
  {query : Query} {first second : Surroundings}

/-- The preferences of a host agree with themselves. -/
theorem Preferences.AgreeOn.refl (name : Text) (host : Preferences) : AgreeOn name host host :=
  ⟨fun _ => rfl, fun _ => rfl, fun _ => rfl⟩

/-- An entry of another name changes nothing that is stated for a name. -/
theorem Overrides.stated?_insert_of_ne (overrides : Dict Value) {inserted : Text} (value : Value)
    (h : name ≠ inserted) :
    stated? (overrides.insert inserted value) name = stated? overrides name := by
  rw [stated?, Dict.get?_insert, if_neg h, stated?]

/-- Overrides that differ in an entry of another name tell the same. -/
theorem TellAlike.insert_of_ne {inserted : Text} (value : Value) (h : name ≠ inserted)
    (hosts : Preferences.AgreeOn name host other) :
    TellAlike name (overrides.insert inserted value) overrides host other :=
  ⟨Overrides.stated?_insert_of_ne overrides value h, fun _ => hosts⟩

namespace Query

/-! ## Features -/

/-- An override answers where one is stated, and else the host. -/
theorem holdsStatic_eq (test : Feature) (overrides : Dict Value) (host : Preferences) :
    holdsStatic test overrides host =
      match Overrides.stated? overrides test.name with
      | none => holdsForHost test host
      | some value => test.operand.isValue value := by
  rw [holdsStatic, Overrides.stated?]
  cases overrides.get? test.name with
  | none => rfl
  | some value => cases value <;> rfl

/-- Hosts that agree on a feature answer it alike. -/
theorem holdsForHost_congr (h : Preferences.AgreeOn test.name host other) :
    holdsForHost test host = holdsForHost test other := by
  rw [holdsForHost, holdsForHost]
  split
  · next hname => rw [h.colorScheme hname]
  · split
    · next hname => rw [h.reducedMotion hname]
    · split
      · next hname => rw [h.contrast hname]
      · rfl

/-- A feature has the same answer for overrides and hosts that tell the same of it. -/
theorem holdsStatic_congr (h : TellAlike test.name overrides others host other) :
    holdsStatic test overrides host = holdsStatic test others other := by
  rw [holdsStatic_eq, holdsStatic_eq, ← h.stated]
  split
  · next hnone => exact holdsForHost_congr (h.preferred hnone)
  · rfl

/-- An overridable feature is answered as it is told, for every size. -/
theorem holdsFeature_of_isOverridable (h : isOverridable test.name = true)
    (surroundings : Surroundings) :
    holdsFeature test surroundings =
      .ok (holdsStatic test surroundings.overrides surroundings.host) := by
  have hsized : ∀ name ∈ (["width", "height", "orientation", "aspect-ratio"] : List Text),
      isOverridable name = false := by decide
  have hne : ∀ name ∈ (["width", "height", "orientation", "aspect-ratio"] : List Text),
      test.name ≠ name := by
    rintro name hname rfl
    rw [hsized _ hname] at h
    cases h
  simp only [List.forall_mem_cons] at hne
  obtain ⟨hwidth, hheight, horientation, hratio, -⟩ := hne
  rw [holdsFeature, if_neg hwidth, if_neg hheight, if_neg horientation, if_neg hratio, if_pos h]

/-- A feature has the same outcome where the same is told of it, and a feature that may not be
overridden wherever the size is the same. -/
theorem holdsFeature_congr (width height : Extent)
    (h : isOverridable test.name = true → TellAlike test.name overrides others host other) :
    holdsFeature test ⟨width, height, overrides, host⟩ =
      holdsFeature test ⟨width, height, others, other⟩ := by
  cases hoverridable : isOverridable test.name with
  | true =>
    rw [holdsFeature_of_isOverridable hoverridable, holdsFeature_of_isOverridable hoverridable,
      holdsStatic_congr (h hoverridable)]
  | false => simp only [holdsFeature, hoverridable, Bool.false_eq_true, if_false]

/-! ## Queries -/

/-- Surroundings in which each feature of a query has the same outcome give the query the same. -/
theorem holds_congr (h : ∀ test ∈ query.features, holdsFeature test first = holdsFeature test second) :
    query.holds first = query.holds second := by
  induction query with
  | absent => rfl
  | feature test => exact h test List.mem_cons_self
  | neg operand ih => rw [holds, holds, ih h]
  | conj left right ihLeft ihRight =>
    rw [features, List.forall_mem_append] at h
    rw [holds, holds, ihLeft h.1, ihRight h.2]
  | disj left right ihLeft ihRight =>
    rw [features, List.forall_mem_append] at h
    rw [holds, holds, ihLeft h.1, ihRight h.2]

/-- A query has the same outcome in surroundings in which each of its features has. -/
theorem evaluate_congr
    (h : ∀ test ∈ query.features, holdsFeature test first = holdsFeature test second) :
    query.evaluate first = query.evaluate second := by
  rw [evaluate, evaluateWithin_eq_holds (Nat.le_refl _), evaluate,
    evaluateWithin_eq_holds (Nat.le_refl _), holds_congr h]

/-- Surroundings of one size that tell the same of the overridable features of a query give it the
same outcome. Entries for features that may not be overridden never count. -/
theorem evaluate_depends_on_told (query : Query) (width height : Extent) :
    (∀ overrides others host other,
      (∀ test ∈ query.features, isOverridable test.name = true →
        TellAlike test.name overrides others host other) →
      query.evaluate ⟨width, height, overrides, host⟩ =
        query.evaluate ⟨width, height, others, other⟩) ∧
    ∀ overrides host name value, isOverridable name = false →
      query.evaluate ⟨width, height, overrides.insert name value, host⟩ =
        query.evaluate ⟨width, height, overrides, host⟩ := by
  have hsame : ∀ overrides others host other,
      (∀ test ∈ query.features, isOverridable test.name = true →
        TellAlike test.name overrides others host other) →
      query.evaluate ⟨width, height, overrides, host⟩ =
        query.evaluate ⟨width, height, others, other⟩ :=
    fun overrides others host other htold =>
      evaluate_congr fun test htest => holdsFeature_congr width height (htold test htest)
  refine ⟨hsame, fun overrides host name value hname => hsame _ _ _ _ fun test _ htest => ?_⟩
  have hother : test.name ≠ name := by
    rintro rfl
    rw [hname] at htest
    cases htest
  exact .insert_of_ne value hother (.refl _ host)

/-- A width that is compared with a word has no answer, whatever is overridden about it and whatever
colors the host prefers. -/
theorem wide_width_has_no_answer :
    let query : Query := .disj (.feature ⟨"prefers-contrast", .exactly, .keyword "more"⟩)
      (.neg (.feature ⟨"width", .exactly, .keyword "wide"⟩))
    let size : Extent := .ofFloat 600
    let bare : Surroundings := ⟨size, size, {}, { contrast := "less" }⟩
    let dressed : Surroundings := ⟨size, size, ⟨[("orientation", .text "portrait"),
      ("width", .text "600"), ("hover", .text "none")]⟩, { colorScheme := "dark", contrast := "less" }⟩
    query.evaluate dressed = query.evaluate bare ∧ query.evaluate bare = .error .unreadable := by
  intro query size bare dressed
  refine ⟨(evaluate_depends_on_told query size size).1 _ _ _ _ ?_, rfl⟩
  intro test htest hoverridable
  rcases List.mem_cons.1 htest with rfl | htest
  · have hname : Text.ofString "prefers-contrast" ≠ "prefers-color-scheme" := by decide
    exact ⟨rfl, fun _ => ⟨fun hsame => absurd hsame hname, fun _ => rfl, fun _ => rfl⟩⟩
  · cases List.mem_singleton.1 htest
    cases hoverridable

end Query

end Breakpoint
