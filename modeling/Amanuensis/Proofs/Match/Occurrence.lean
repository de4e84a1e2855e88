import Amanuensis.Match.Score
import Mathlib.Data.List.Forall2
/-!
# Occurrences of a phrase

A phrase occurs in a request where a stretch of the request's words matches
the phrase's words one for one. The scan finds every occurrence and nothing
else (`mem_windows`), it tells for each whether all of its words stand as
themselves and whether it opens the request, and it keeps one of the highest
grade (`bestWindow_windows`).
-/


namespace Amanuensis

namespace Match

/-- A word of a request matches a word of the phrase: it is that word, or
that word has three characters or more and an inflection is added to it. -/
def WordMatches (word want : Token) : Prop :=
  word = want ∨
    3 ≤ want.length ∧ ∃ ending ∈ ["s", "es", "d", "ed", "ing"], word = want ++ ending.toList

/-- A stretch of a request whose words match those of a phrase one for
one. -/
structure Occurrence (phrase input : List Token) where
  before : List Token
  words : List Token
  after : List Token
  cut : input = before ++ words ++ after
  matched : List.Forall₂ WordMatches words phrase

namespace Occurrence

variable {phrase input : List Token}

/-- The window at which the occurrence is found. -/
def window (o : Occurrence phrase input) : Window :=
  ⟨if o.words = phrase then .word else .stem, o.before.isEmpty⟩

end Occurrence

variable {phrase input : List Token} {word want : Token} {w : Window}

/-! ## One word -/

theorem isInflection_iff {ending : Token} :
    isInflection ending = true ↔
      ending = [] ∨ ∃ e ∈ ["s", "es", "d", "ed", "ing"], e.toList = ending := by
  rw [isInflection, Bool.or_eq_true, List.isEmpty_iff, List.contains_iff_mem]
  exact or_congr Iff.rfl List.mem_map

theorem fitWord_self (word : Token) : fitWord word word = some .word := if_pos rfl

/-- Any other word can only be an inflected one. -/
theorem fitWord_of_ne (h : word ≠ want) :
    fitWord word want = some .stem ∧ WordMatches word want ∨
      fitWord word want = none ∧ ¬ WordMatches word want := by
  unfold fitWord WordMatches minStemLength
  rw [if_neg h]
  by_cases hshort : want.length < 3
  · exact .inr ⟨if_pos hshort, fun hmatch => hmatch.elim h fun hlong => by omega⟩
  rw [if_neg hshort]
  by_cases hends : ∃ e ∈ ["s", "es", "d", "ed", "ing"], word = want ++ e.toList
  · obtain ⟨e, he, rfl⟩ := hends
    refine .inl ⟨if_pos ?_, .inr ⟨by omega, e, he, rfl⟩⟩
    rw [List.drop_left, Bool.and_eq_true, isInflection_iff]
    exact ⟨List.isPrefixOf_iff_prefix.2 (List.prefix_append _ _), .inr ⟨e, he, rfl⟩⟩
  · refine .inr ⟨if_neg fun hfits => ?_, fun hmatch => hmatch.elim h fun hlong => hends hlong.2⟩
    rw [Bool.and_eq_true, List.isPrefixOf_iff_prefix, isInflection_iff] at hfits
    obtain ⟨⟨ending, rfl⟩, hinflected⟩ := hfits
    rw [List.drop_left] at hinflected
    obtain rfl | ⟨e, he, rfl⟩ := hinflected
    · exact h (List.append_nil want)
    · exact hends ⟨e, he, rfl⟩

/-- **One word fits as matching says.** -/
theorem fitWord_eq_some {f : Fit} :
    fitWord word want = some f ↔
      WordMatches word want ∧ f = if word = want then .word else .stem := by
  by_cases heq : word = want
  · subst heq
    rw [fitWord_self, if_pos rfl, Option.some.injEq, eq_comm]
    exact (and_iff_right (.inl rfl)).symm
  · rw [if_neg heq]
    obtain ⟨hfit, hmatch⟩ | ⟨hfit, hmatch⟩ := fitWord_of_ne heq <;> rw [hfit]
    · rw [Option.some.injEq, eq_comm]
      exact (and_iff_right hmatch).symm
    · exact iff_of_false (Option.some_ne_none _).symm fun h => hmatch h.1

/-! ## The words at one place -/

theorem both_ite {p q : Prop} [Decidable p] [Decidable q] :
    (if p then Fit.word else .stem).both (if q then .word else .stem) =
      if p ∧ q then .word else .stem := by
  by_cases hp : p
  · simp [hp, Fit.both]
  · simp [hp, Fit.both]

/-- **The leading words fit as matching says**, and as themselves exactly
when they are the phrase. -/
theorem fitLeading_eq_some {f : Fit} :
    fitLeading phrase input = some f ↔
      ∃ words after, input = words ++ after ∧ List.Forall₂ WordMatches words phrase ∧
        f = if words = phrase then .word else .stem := by
  induction phrase generalizing input f with
  | nil =>
    simp only [fitLeading, Option.some.injEq, List.forall₂_nil_right_iff]
    constructor
    · rintro rfl
      exact ⟨[], input, rfl, rfl, rfl⟩
    · rintro ⟨_, _, _, rfl, rfl⟩
      rfl
  | cons want phrase ih =>
    cases input with
    | nil =>
      simp only [fitLeading, reduceCtorEq, false_iff]
      rintro ⟨words, after, hcut, hmatched, -⟩
      obtain ⟨rfl, -⟩ := List.append_eq_nil_iff.1 hcut.symm
      cases hmatched
    | cons word input =>
      constructor
      · intro h
        simp only [fitLeading] at h
        split at h
        · rename_i g g' hword hrest
          obtain ⟨hmatch, rfl⟩ := fitWord_eq_some.1 hword
          obtain ⟨words, after, rfl, hmatched, rfl⟩ := ih.1 hrest
          rw [both_ite, Option.some.injEq] at h
          refine ⟨word :: words, after, rfl, .cons hmatch hmatched, ?_⟩
          simp only [List.cons.injEq, ← h]
        · cases h
      · rintro ⟨words, after, hcut, hmatched, rfl⟩
        cases hmatched with
        | @cons word' _ words _ hmatch hmatched =>
          obtain ⟨rfl, hrest⟩ : word = word' ∧ input = words ++ after := List.cons.inj hcut
          simp only [fitLeading, fitWord_eq_some.2 ⟨hmatch, rfl⟩,
            ih.2 ⟨words, after, hrest, hmatched, rfl⟩, both_ite, List.cons.injEq]

/-! ## All places -/

/-- A word further on opens no request. -/
def Occurrence.skip (word : Token) (o : Occurrence phrase input) :
    Occurrence phrase (word :: input) where
  before := word :: o.before
  words := o.words
  after := o.after
  cut := congrArg (List.cons word) o.cut
  matched := o.matched

theorem Occurrence.skip_window (o : Occurrence phrase input) (word : Token) :
    (o.skip word).window = ⟨o.window.fit, false⟩ := rfl

/-- The windows from some place on: the place is the request's opening, or
none of them opens it. -/
theorem mem_windows_from (h : phrase ≠ []) (atStart : Bool) :
    w ∈ windows phrase atStart input ↔
      ∃ o : Occurrence phrase input, w = ⟨o.window.fit, atStart && o.window.atStart⟩ := by
  induction input generalizing atStart with
  | nil =>
    refine iff_of_false (List.not_mem_nil) ?_
    rintro ⟨o, -⟩
    have hnil : o.words = [] :=
      (List.append_eq_nil_iff.1 (List.append_eq_nil_iff.1 o.cut.symm).1).2
    have hmatched := o.matched
    rw [hnil, List.forall₂_nil_left_iff] at hmatched
    exact h hmatched
  | cons word input ih =>
    have hsplit : w ∈ windows phrase atStart (word :: input) ↔
        (∃ fit, fitLeading phrase (word :: input) = some fit ∧ w = ⟨fit, atStart⟩) ∨
          w ∈ windows phrase false input := by
      simp only [windows]
      split
      · rename_i fit hfit
        rw [List.mem_cons]
        simp only [Option.some.injEq, exists_eq_left', hfit]
      · rename_i hfit
        simp only [hfit, reduceCtorEq, false_and, exists_false, false_or]
    rw [hsplit, ih]
    constructor
    · rintro (⟨fit, hfit, rfl⟩ | ⟨o, rfl⟩)
      · obtain ⟨words, after, hcut, hmatched, rfl⟩ := fitLeading_eq_some.1 hfit
        exact ⟨⟨[], words, after, hcut, hmatched⟩, by simp [Occurrence.window]⟩
      · refine ⟨o.skip word, ?_⟩
        rw [Bool.false_and, o.skip_window, Bool.and_false]
    · rintro ⟨⟨before, words, after, hcut, hmatched⟩, rfl⟩
      cases before with
      | nil =>
        refine .inl ⟨_, fitLeading_eq_some.2 ⟨words, after, hcut, hmatched, rfl⟩, ?_⟩
        simp [Occurrence.window]
      | cons _ before =>
        refine .inr ⟨⟨before, words, after, (List.cons.inj hcut).2, hmatched⟩, ?_⟩
        simp [Occurrence.window]

/-- **The scan finds the occurrences**, every one and no others. -/
theorem mem_windows (h : phrase ≠ []) :
    w ∈ windows phrase true input ↔ ∃ o : Occurrence phrase input, w = o.window :=
  mem_windows_from h true

/-! ## The best place -/

theorem better_eq_or (v w : Window) : v.better w = v ∨ v.better w = w := by
  unfold Window.better
  split
  · exact .inr rfl
  · exact .inl rfl

theorem grade_better (v w : Window) : (v.better w).grade = max v.grade w.grade := by
  unfold Window.better
  split <;> omega

/-- The best window is one of the list, and none is better. -/
theorem bestWindow_eq_some {v : Window} {list : List Window} (h : bestWindow list = some v) :
    v ∈ list ∧ ∀ w ∈ list, w.grade ≤ v.grade := by
  induction list generalizing v with
  | nil => cases h
  | cons u rest ih =>
    simp only [bestWindow] at h
    split at h
    · rename_i hnone
      obtain rfl := Option.some.inj h
      cases rest with
      | nil => simp
      | cons _ _ => simp [bestWindow] at hnone; split at hnone <;> cases hnone
    · rename_i v' hsome
      obtain rfl := Option.some.inj h
      obtain ⟨hmem, hmax⟩ := ih hsome
      constructor
      · obtain hu | hv := better_eq_or u v'
        · rw [hu]
          exact List.mem_cons_self
        · rw [hv]
          exact List.mem_cons_of_mem _ hmem
      · intro w hw
        rw [grade_better]
        obtain rfl | hw := List.mem_cons.1 hw
        · exact Nat.le_max_left _ _
        · exact Nat.le_trans (hmax w hw) (Nat.le_max_right _ _)

theorem bestWindow_eq_none {list : List Window} : bestWindow list = none ↔ list = [] := by
  cases list with
  | nil => exact iff_of_true rfl rfl
  | cons u rest =>
    simp only [bestWindow, reduceCtorEq, iff_false]
    split <;> simp

/-- **The scan keeps an occurrence of the highest grade**, and comes out
empty only where there is none. -/
theorem bestWindow_windows (input : List Token) (h : phrase ≠ []) :
    (∃ o : Occurrence phrase input, bestWindow (windows phrase true input) = some o.window ∧
        ∀ o' : Occurrence phrase input, o'.window.grade ≤ o.window.grade) ∨
      bestWindow (windows phrase true input) = none ∧ IsEmpty (Occurrence phrase input) := by
  cases hbest : bestWindow (windows phrase true input) with
  | none =>
    refine .inr ⟨rfl, ⟨fun o => ?_⟩⟩
    have hmem := (mem_windows h).2 ⟨o, rfl⟩
    rw [bestWindow_eq_none.1 hbest] at hmem
    exact List.not_mem_nil hmem
  | some v =>
    obtain ⟨hmem, hmax⟩ := bestWindow_eq_some hbest
    obtain ⟨o, rfl⟩ := (mem_windows h).1 hmem
    exact .inl ⟨o, rfl, fun o' => hmax _ ((mem_windows h).2 ⟨o', rfl⟩)⟩

end Match

end Amanuensis
