import Amanuensis.Match.Route
import Amanuensis.Proofs.Match.Phrase
/-!
# The routes of a text

A tool is called for by the first of its phrases with a positive score, and
by no other (`route?_eq_some`); the ranking holds these routes, those that
reach the threshold, and nothing else (`mem_rank`).
-/


namespace Amanuensis

namespace Match

/-- Does the phrase have a positive score for the text? -/
def Positive (input phrase : String) : Prop :=
  (hundredths 0).lt (scoreNumber (score input phrase)) = true

/-- The route by the first phrase of its tool, in the order of declaration,
that has a positive score, with that score. -/
structure Chosen (input : String) (route : Route) : Prop where
  first : ∃ before after, route.tool.phrases = before ++ route.phrase :: after ∧
    ∀ phrase ∈ before, ¬ Positive input phrase
  positive : Positive input route.phrase
  scored : score input route.phrase = some route.score

variable {input phrase : String} {phrases : List String} {t : Tool} {route other : Route}
  {s : Score} {r : Router}

theorem positive_iff : Positive input phrase ↔ (score input phrase).isSome = true :=
  scoreNumber_pos (score_scored input phrase)

theorem not_positive_iff : ¬ Positive input phrase ↔ score input phrase = none := by
  rw [positive_iff, Option.not_isSome_iff_eq_none]

theorem positive_of_score (h : score input phrase = some s) : Positive input phrase :=
  positive_iff.2 (Option.isSome_of_eq_some h)

/-! ## The first phrase that fits -/

theorem firstRoute_eq_some :
    firstRoute t input phrases = some route ↔
      route.tool = t ∧ score input route.phrase = some route.score ∧
        ∃ before after, phrases = before ++ route.phrase :: after ∧
          ∀ phrase ∈ before, ¬ Positive input phrase := by
  induction phrases with
  | nil => simp [firstRoute]
  | cons phrase rest ih =>
    simp only [firstRoute]
    split
    · rename_i s hs
      constructor
      · intro h
        obtain rfl := Option.some.inj h
        exact ⟨rfl, hs, [], rest, rfl, fun _ hmem => absurd hmem List.not_mem_nil⟩
      · rintro ⟨rfl, hscore, before, after, hsplit, hbefore⟩
        cases before with
        | nil =>
          obtain ⟨rfl, -⟩ := List.cons.inj hsplit
          obtain rfl := Option.some.inj (hs.symm.trans hscore)
          rfl
        | cons p _ =>
          obtain ⟨rfl, -⟩ := List.cons.inj hsplit
          exact absurd (positive_of_score hs) (hbefore _ List.mem_cons_self)
    · rename_i hs
      rw [ih]
      refine and_congr_right fun _ => and_congr_right fun hscore => ?_
      constructor
      · rintro ⟨before, after, rfl, hbefore⟩
        refine ⟨phrase :: before, after, rfl, fun p hp => ?_⟩
        obtain rfl | hp := List.mem_cons.1 hp
        · exact not_positive_iff.2 hs
        · exact hbefore p hp
      · rintro ⟨before, after, hsplit, hbefore⟩
        cases before with
        | nil =>
          obtain ⟨rfl, -⟩ := List.cons.inj hsplit
          exact absurd (hs.symm.trans hscore) (Option.some_ne_none _).symm
        | cons p before =>
          exact ⟨before, after, (List.cons.inj hsplit).2, fun q hq =>
            hbefore q (List.mem_cons_of_mem _ hq)⟩

/-- **A tool is called for by its first positive phrase.** -/
theorem route?_eq_some :
    route? t input = some route ↔ route.tool = t ∧ Chosen input route := by
  rw [route?, firstRoute_eq_some]
  constructor
  · rintro ⟨rfl, hscore, hfirst⟩
    exact ⟨rfl, hfirst, positive_of_score hscore, hscore⟩
  · rintro ⟨rfl, hchosen⟩
    exact ⟨rfl, hchosen.scored, hchosen.first⟩

theorem firstRoute_eq_none :
    firstRoute t input phrases = none ↔ ∀ phrase ∈ phrases, ¬ Positive input phrase := by
  induction phrases with
  | nil => exact iff_of_true rfl fun _ h => absurd h List.not_mem_nil
  | cons phrase rest ih =>
    rw [List.forall_mem_cons, not_positive_iff, ← ih]
    simp only [firstRoute]
    split
    · rename_i hs
      exact iff_of_false (Option.some_ne_none _) fun h => Option.some_ne_none _ (hs.symm.trans h.1)
    · rename_i hs
      exact (and_iff_right hs).symm

/-- A text calls for every tool of which some phrase is positive. -/
theorem exists_chosen :
    (∃ route, route.tool = t ∧ Chosen input route) ↔
      ∃ phrase ∈ t.phrases, Positive input phrase := by
  have hnone : route? t input = none ↔ ∀ phrase ∈ t.phrases, ¬ Positive input phrase :=
    firstRoute_eq_none
  rw [← not_iff_not]
  simp only [not_exists, not_and] at hnone ⊢
  rw [← hnone, Option.eq_none_iff_forall_ne_some]
  simp only [Ne, route?_eq_some, not_and]

/-- A text calls for a tool in one way. -/
theorem Chosen.unique (h : Chosen input route) (h' : Chosen input other)
    (htool : route.tool = other.tool) : route = other :=
  Option.some.inj ((route?_eq_some.2 ⟨rfl, h⟩).symm.trans
    (route?_eq_some.2 ⟨htool.symm, h'⟩))

theorem Chosen.counted (h : Chosen input route) : route.score.Counted :=
  (h.scored ▸ score_scored input route.phrase).counted

/-- A phrase that chooses a tool has words, and so has the text. -/
theorem Chosen.compared (h : Chosen input route) :
    Compared (wordsOf route.phrase) (wordsOf input) := by
  by_contra hnot
  have hscored := h.scored
  rw [score, scoreTokens, if_pos (not_not.1 (mt compared_iff.2 hnot))] at hscored
  cases hscored

theorem Chosen.number_unsigned (h : Chosen input route) : route.number.Unsigned :=
  Match.number_unsigned h.counted

/-! ## The routes that count -/

/-- **The ranking holds the chosen routes that reach the threshold.** -/
theorem mem_rank :
    route ∈ r.rank input ↔
      route.tool ∈ r.registry.tools ∧ Chosen input route ∧ r.minScore.le route.number = true := by
  rw [Router.rank, List.mem_mergeSort, List.mem_filter, List.mem_filterMap]
  constructor
  · rintro ⟨⟨t, ht, hroute⟩, hadmits⟩
    obtain ⟨rfl, hchosen⟩ := route?_eq_some.1 hroute
    exact ⟨ht, hchosen, hadmits⟩
  · rintro ⟨ht, hchosen, hadmits⟩
    exact ⟨⟨route.tool, ht, route?_eq_some.2 ⟨rfl, hchosen⟩⟩, hadmits⟩

end Match

end Amanuensis
