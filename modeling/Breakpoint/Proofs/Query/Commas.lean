import Breakpoint.Proofs.Query.Descent
import Breakpoint.Proofs.Query.Grammar
import Breakpoint.Proofs.Query.Nesting

/-!
# Lists of queries between commas

A list is read by its members if each of them closes the parentheses it opens and has no comma
outside them. The media type before the first member is taken off twice, before the list is cut
and before the first member is read, so a second media type that the first member begins with is
taken off in a list only.
-/

namespace Breakpoint.Query

open Breakpoint.Text

/-- The text closes the parentheses it opens and has no comma outside them. -/
structure IsClosed (text : Text) : Prop where
  level : nesting text = 0
  commas : ∀ index < text.length, text[index]? = some (.char ',') → nesting (text.take index) ≠ 0

instance : DecidablePred IsClosed := fun text =>
  decidable_of_iff (nesting text = 0 ∧
      ∀ index < text.length, text[index]? = some (.char ',') → nesting (text.take index) ≠ 0)
    ⟨fun h => ⟨h.1, h.2⟩, fun h => ⟨h.level, h.commas⟩⟩

/-- The members of a list with commas between them. -/
def commaJoined (members : List Text) : Text := [CodePoint.char ','].intercalate members

variable {text rest : Text}

/-- Joined members are the first, a comma and the others joined. -/
theorem commaJoined_cons (first last : Text) (between : List Text) :
    commaJoined (first :: (between ++ [last])) =
      first ++ .char ',' :: commaJoined (between ++ [last]) := by
  have hcons : ∀ next others, commaJoined (first :: next :: others) =
      first ++ .char ',' :: commaJoined (next :: others) := by
    intro next others
    rw [commaJoined, List.intercalate_cons_cons, List.append_assoc, List.singleton_append,
      commaJoined]
  cases between with
  | nil => exact hcons last []
  | cons next between => exact hcons next (between ++ [last])

/-- A comma begins no segment of a closed text. -/
theorem IsClosed.spares (h : IsClosed text) : Spares id [.char ','] text := by
  rintro before after rfl hlevel hfound
  cases after with
  | nil => cases List.prefix_nil.1 hfound
  | cons c after =>
    rw [List.map_cons, List.cons_prefix_cons] at hfound
    obtain ⟨rfl, -⟩ := hfound
    apply h.commas before.length
    · simp
    · simp
    · rw [List.take_left, hlevel]

/-- The scan for commas goes through a text that neither opens nor cuts. -/
theorem uncut_of_spares (hspares : Spares id [.char ','] text) (hlevel : nesting text = 0)
    (rest : Text) : Uncut id [.char ','] text rest :=
  (hspares.passes rest).uncut hlevel

/-- What stands in a closed text between texts without marks is not cut. -/
theorem IsClosed.uncut {before after : Text} (h : IsClosed (before ++ (text ++ after)))
    (hbefore : ∀ c ∈ before, IsUnmarked c) (hafter : ∀ c ∈ after, IsUnmarked c) (rest : Text) :
    Uncut id [.char ','] text rest := by
  have hlevel := h.level
  rw [nesting_append, nesting_append, nesting_of_unmarked hbefore, nesting_of_unmarked hafter] at hlevel
  apply uncut_of_spares
  · exact h.spares.of_isInfix (nesting_of_unmarked hbefore)
  · omega

/-! ## The members of a list -/

/-- A list is cut into its members, up to the blanks at its end. -/
theorem pieces_of_members {between : List Text} {last : Text}
    (hclosed : ∀ member ∈ between ++ [last], IsClosed member) (hlast : trim last ≠ []) :
    List.Forall₂ (fun piece member => trim piece = trim member)
      (splitFrom [.char ','] 1 0 0 []
        ((dropTrailing isBlank (commaJoined (between ++ [last]))).map id)
        (dropTrailing isBlank (commaJoined (between ++ [last]))))
      (between ++ [last]) := by
  induction between with
  | nil =>
    have hmember : IsClosed last := hclosed last (by simp)
    obtain ⟨blanks, hsplit, hblanks⟩ := exists_dropTrailing isBlank last
    have hsingle : commaJoined ([] ++ [last]) = last := List.intercalate_singleton
    have hne : dropTrailing isBlank last ≠ [] := by
      intro hempty
      rw [← trim_dropTrailing, hempty] at hlast
      exact hlast rfl
    have hwhole : IsClosed ([] ++ (dropTrailing isBlank last ++ blanks)) := by
      rw [List.nil_append, ← hsplit]
      exact hmember
    have huncut := hwhole.uncut (List.forall_mem_nil _) (isUnmarked_of_blanks hblanks) []
    rw [hsingle, splitFrom_last huncut hne]
    exact .cons (trim_dropTrailing last) .nil
  | cons first between ih =>
    rw [List.cons_append, List.forall_mem_cons] at hclosed
    rw [List.cons_append, commaJoined_cons, dropTrailing_append_cons (by decide),
      Written.splitFrom_comma (uncut_of_spares hclosed.1.spares hclosed.1.level _)]
    exact .cons rfl (ih hclosed.2)

/-- What is read depends on the text that is worked on only. -/
theorem parse_congr {other : Text}
    (h : dropMediaType (trim text) = dropMediaType (trim other)) : parse text = parse other := by
  rw [parse_eq text, parse_eq other, parseStep, h]
  rfl

/-- Texts that differ in the blanks around them are read alike. -/
theorem parse_of_trim_eq {other : Text} (h : trim text = trim other) : parse text = parse other :=
  parse_congr (by rw [h])

/-! ## The first member -/

/-- A list is worked on without the blanks and the media type before its first member. -/
theorem dropMediaType_append_comma (text rest : Text) :
    dropMediaType (text ++ .char ',' :: rest) =
      (afterMediaType? text).getD text ++ .char ',' :: rest := by
  have hmarked : ¬ IsUnmarked (.char ',') := fun h => h.2.2 rfl
  have hafter : afterMediaType? (text ++ .char ',' :: rest) =
      (afterMediaType? text).map (· ++ .char ',' :: rest) := by
    apply afterMediaType?_append
    intro c hc
    cases hc
    exact ⟨.char ',', by simp, hmarked⟩
  rw [(dropMediaType_of_mem (by simp) hmarked).2, hafter]
  cases afterMediaType? text <;> rfl

/-- The first member of a list is read in it as it is without the media type before it. -/
theorem parse?_first (first : Text) :
    parse? ((afterMediaType? (first.dropWhile isBlank)).getD (first.dropWhile isBlank)) =
      parse? (dropMediaType (trim first)) := by
  rw [trim]
  obtain ⟨blanks, hsplit, hblanks⟩ := exists_dropTrailing isBlank (first.dropWhile isBlank)
  generalize first.dropWhile isBlank = start at hsplit ⊢
  generalize dropTrailing isBlank start = core at hsplit ⊢
  subst hsplit
  by_cases hopen : .char '(' ∈ core
  · have hmarked : ¬ IsUnmarked (.char '(') := fun h => h.1 rfl
    have hafter : afterMediaType? (core ++ blanks) = (afterMediaType? core).map (· ++ blanks) := by
      apply afterMediaType?_append
      exact fun c _ => ⟨.char '(', List.mem_append_left _ hopen, hmarked⟩
    have hstart : (afterMediaType? (core ++ blanks)).getD (core ++ blanks) =
        dropMediaType core ++ blanks := by
      rw [hafter, (dropMediaType_of_mem hopen hmarked).2]
      cases afterMediaType? core <;> rfl
    rw [hstart, parse?_eq_toOption, parse?_eq_toOption, parse_of_trim_eq]
    exact trim_append_blanks (List.forall_mem_nil _) hblanks (dropMediaType core)
  · -- Without a parenthesis, neither of them is read.
    have hstart : .char '(' ∉ core ++ blanks := by
      rw [List.mem_append, not_or]
      exact ⟨hopen, notMem_of_unmarked (isUnmarked_of_blanks hblanks)⟩
    rw [parse?_eq_none, parse?_eq_none]
    · obtain ⟨lead, hcore, -⟩ := exists_dropMediaType core
      rw [hcore] at hopen
      exact fun hmember => hopen (List.mem_append_right lead hmember)
    · cases hafter : afterMediaType? (core ++ blanks) with
      | none => exact hstart
      | some after =>
        obtain ⟨lead, -, hwhole, -⟩ := afterMediaType?_eq_some_iff.1 hafter
        rw [hwhole] at hstart
        exact fun hmember => hstart (List.mem_append_right lead hmember)

/-- No blanks are left around a trimmed text without its media type. -/
theorem trim_dropMediaType_trim (text : Text) :
    trim (dropMediaType (trim text)) = dropMediaType (trim text) := by
  obtain ⟨hhead, hlast⟩ := endsBlankless_trim text
  obtain ⟨lead, hsplit, -, hkept⟩ := exists_dropMediaType (trim text)
  apply trim_eq_self (hkept hhead)
  intro c hc
  apply hlast c
  rw [hsplit, List.getLast?_append, hc, Option.some_or]

/-- A member that begins with one media type at most is read like its rest. -/
theorem parse?_dropMediaType {first : Text}
    (h : dropMediaType (dropMediaType (trim first)) = dropMediaType (trim first)) :
    parse? (dropMediaType (trim first)) = parse? first := by
  rw [parse?_eq_toOption, parse?_eq_toOption, parse_congr]
  rw [trim_dropMediaType_trim, h]

/-- Members that are read alike one by one are read alike together. -/
theorem mapM_parse_congr {pieces members : List Text}
    (h : List.Forall₂ (fun piece member => trim piece = trim member) pieces members) :
    pieces.mapM parse = members.mapM parse := by
  induction h with
  | nil => rfl
  | cons hfirst _ ih => rw [List.mapM_cons, List.mapM_cons, parse_of_trim_eq hfirst, ih]

/-- A list is cut into what is left of its first member and into its other members. -/
theorem cuts?_commaJoined {first last : Text} {between : List Text}
    (hclosed : ∀ member ∈ first :: (between ++ [last]), IsClosed member) (hlast : trim last ≠ []) :
    ∃ working segments, dropMediaType (trim (commaJoined (first :: (between ++ [last])))) = working ∧
      cuts? working "," false = some
        ((afterMediaType? (first.dropWhile isBlank)).getD (first.dropWhile isBlank) :: segments) ∧
      List.Forall₂ (fun piece member => trim piece = trim member) segments (between ++ [last]) := by
  rw [List.forall_mem_cons] at hclosed
  have hpieces := pieces_of_members hclosed.2 hlast
  rw [commaJoined_cons, trim_append_cons (by decide), dropMediaType_append_comma]
  generalize dropTrailing isBlank (commaJoined (between ++ [last])) = others at hpieces ⊢
  generalize hpiece : (afterMediaType? (first.dropWhile isBlank)).getD (first.dropWhile isBlank) =
    piece
  have hbefore : ∃ before, first = before ++ (piece ++ []) ∧ ∀ c ∈ before, IsUnmarked c := by
    have hblanks : ∀ c ∈ first.takeWhile isBlank, IsUnmarked c :=
      isUnmarked_of_blanks fun c hc => List.mem_takeWhile_imp hc
    have hsplit := List.takeWhile_append_dropWhile (p := isBlank) (l := first)
    cases hafter : afterMediaType? (first.dropWhile isBlank) with
    | none =>
      rw [hafter, Option.getD_none] at hpiece
      rw [hpiece] at hsplit
      exact ⟨_, by rw [List.append_nil, hsplit], hblanks⟩
    | some after =>
      obtain ⟨lead, hlead, hstart, -⟩ := afterMediaType?_eq_some_iff.1 hafter
      rw [hafter, Option.getD_some] at hpiece
      rw [hstart, hpiece, ← List.append_assoc] at hsplit
      refine ⟨_, by rw [List.append_nil, hsplit], ?_⟩
      rw [List.forall_mem_append]
      exact ⟨hblanks, hlead.unmarked⟩
  obtain ⟨before, hfirst, hunmarked⟩ := hbefore
  have huncut : Uncut id [.char ','] piece (.char ',' :: others) := by
    have hmember : IsClosed (before ++ (piece ++ [])) := hfirst ▸ hclosed.1
    exact hmember.uncut hunmarked (List.forall_mem_nil _) _
  have hsplit := Written.splitFrom_comma huncut
  rw [← Written.splitTopLevel_comma] at hsplit
  refine ⟨_, _, rfl, Written.cuts?_eq_some hsplit (List.cons_ne_nil _ _) ?_, hpieces⟩
  intro hsame
  rw [(List.cons.inj hsame).2] at hpieces
  have hlength := hpieces.length_eq
  simp at hlength

/-- A list says what its members say, joined to the left, the first of them without the media type
before it. -/
theorem parse?_commaJoined (first last : Text) (between : List Text)
    (hclosed : ∀ member ∈ first :: (between ++ [last]), IsClosed member)
    (hlast : trim last ≠ []) :
    parse? (commaJoined (first :: (between ++ [last]))) =
      ((dropMediaType (trim first) :: (between ++ [last])).mapM parse?).map (joinLeft .disj) := by
  obtain ⟨working, segments, hworking, hcuts, hsegments⟩ := cuts?_commaJoined hclosed hlast
  have hothers : segments.mapM parse? = (between ++ [last]).mapM parse? := by
    rw [← toOption_mapM_parse, mapM_parse_congr hsegments, toOption_mapM_parse]
  rw [parse?_of_cuts? hworking hcuts, List.mapM_cons, List.mapM_cons, hothers, parse?_first]

/-- The trees joined to the left, if each of them is there. -/
def joinAll (trees : List (Option Query)) : Option Query := (trees.mapM id).map (joinLeft .disj)

/-- Readings are joined exactly if all of them give a tree. -/
theorem joinAll_map_parse? (members : List Text) :
    joinAll (members.map parse?) = (members.mapM parse?).map (joinLeft .disj) := by
  rw [joinAll, List.mapM_map]
  rfl

/-- Every reading of a list of closed members, the last of them not blank, gives what the readings
of its members give, joined to the left, and only if each of them gives a tree: the first one is read
without the media type before it, which is taken off before the list is cut. Unless another media
type comes after that one, the first member may be read as it is, too. -/
theorem readsAs_commaJoined_iff (first last : Text) (between : List Text)
    (hclosed : ∀ member ∈ first :: (between ++ [last]), IsClosed member)
    (hlast : trim last ≠ []) :
    (dropMediaType (dropMediaType (trim first)) = dropMediaType (trim first) →
      ∀ trees, List.Forall₂ ReadsAs (first :: (between ++ [last])) trees → ∀ tree,
        ReadsAs (commaJoined (first :: (between ++ [last]))) tree ↔ tree = joinAll trees) ∧
    ∀ trees, List.Forall₂ ReadsAs (dropMediaType (trim first) :: (between ++ [last])) trees → ∀ tree,
      ReadsAs (commaJoined (first :: (between ++ [last]))) tree ↔ tree = joinAll trees := by
  have hwhole := parse?_commaJoined first last between hclosed hlast
  refine ⟨fun hone trees htrees tree => ?_, fun trees htrees tree => ?_⟩
  · rw [readsAs_iff, forall₂_readsAs_iff.1 htrees, joinAll_map_parse?, hwhole, List.mapM_cons,
      List.mapM_cons, parse?_dropMediaType hone]
  · rw [readsAs_iff, forall₂_readsAs_iff.1 htrees, joinAll_map_parse?, hwhole]

/-- Three members, the first of them after a media type. -/
theorem screen_list_read_by_members :
    let trees : List Query := [.feature ⟨"hover", .exactly, .keyword "none"⟩,
      .neg (.feature ⟨"hover", .exactly, .keyword "hover"⟩),
      .feature ⟨"pointer", .exactly, .keyword "fine"⟩]
    ReadsAs (commaJoined [" screen and (hover: none)", "not (hover: hover) ", " (pointer: fine) "])
      (some (joinLeft .disj trees)) := by
  intro trees
  have hmembers : List.Forall₂ ReadsAs
      [" screen and (hover: none)", "not (hover: hover) ", " (pointer: fine) "]
      (trees.map some) :=
    .cons ⟨2, [], rfl⟩ (.cons ⟨2, [], rfl⟩ (.cons ⟨2, [], rfl⟩ .nil))
  exact ((readsAs_commaJoined_iff " screen and (hover: none)" " (pointer: fine) "
    ["not (hover: hover) "] (by decide +kernel) (by decide +kernel)).1 (by decide +kernel)
      (trees.map some) hmembers _).2 rfl

/-- A member that begins with two media types is read in a list, but not alone. -/
theorem two_mediaTypes_read_in_list_only :
    ¬ ∀ (first last : Text) (between : List Text),
      (∀ member ∈ first :: (between ++ [last]), IsClosed member) → trim last ≠ [] →
        ∀ trees, List.Forall₂ ReadsAs (first :: (between ++ [last])) trees → ∀ tree,
          ReadsAs (commaJoined (first :: (between ++ [last]))) tree → tree = joinAll trees := by
  intro h
  let still : Query := .feature ⟨"hover", .exactly, .keyword "none"⟩
  let hover : Query := .feature ⟨"hover", .exactly, .keyword "hover"⟩
  have hlist : ReadsAs (commaJoined ["screen and print and (hover: none)", "(hover: hover)"])
      (some (.disj still hover)) := ⟨3, [], rfl⟩
  have hmembers : List.Forall₂ ReadsAs ["screen and print and (hover: none)", "(hover: hover)"]
      [none, some hover] := .cons ⟨3, _, rfl⟩ (.cons ⟨1, [], rfl⟩ .nil)
  cases h "screen and print and (hover: none)" "(hover: hover)" [] (by decide +kernel)
    (by decide +kernel) _ hmembers _ hlist

end Breakpoint.Query
