import Amanuensis.Proofs.Match.Grade
import Amanuensis.Proofs.Match.Occurrence
import Mathlib.Order.Bounds.Basic
/-!
# What a score says

The scan of a request for a phrase has four endings (`Scored`), and a score
says by its value which it was: it is positive exactly where the phrase
occurs in a request that is compared at all, it is one for the phrase itself,
and otherwise it is the greatest worth of an occurrence (`score_greatest`).
-/


namespace Amanuensis

namespace Match

/-- The words of a text. -/
abbrev wordsOf (s : String) : List Token := tokenize s.toList

/-- A request and a phrase that are compared at all: both have words, and
those of the request are not all stopwords. -/
structure Compared (phrase input : List Token) : Prop where
  input_ne : input ≠ []
  phrase_ne : phrase ≠ []
  meaning : ∃ word ∈ input, word ∉ stopwords

variable {phrase input : List Token}

/-- What an occurrence is worth: more when every word stands as itself, more
at the start of the request, and more the more of the request it covers. -/
def Occurrence.worth (o : Occurrence phrase input) : Rat :=
  (if o.words = phrase then 8 / 10 else 6 / 10) + (if o.before = [] then 1 / 10 else 0) +
    5 / 100 * ((phrase.length : Rat) / (input.length : Rat))

/-- The exact value of a score, zero when the phrase does not fit. -/
def scoreValue : Option Score → Rat
  | none => 0
  | some s => s.value

namespace Occurrence

theorem worth_eq (o : Occurrence phrase input) :
    o.worth = Score.value (.window o.window phrase.length input.length) := by
  have hfit : (if o.words = phrase then (8 / 10 : Rat) else 6 / 10) = o.window.fit.worth := by
    unfold window
    split <;> rfl
  have hstart : (if o.before = [] then (1 / 10 : Rat) else 0) =
      if o.window.atStart then 1 / 10 else 0 :=
    if_congr List.isEmpty_iff.symm rfl rfl
  rw [worth, hfit, hstart]
  rfl

theorem length_words (o : Occurrence phrase input) : o.words.length = phrase.length :=
  o.matched.length_eq

/-- A phrase is no longer than a request in which it occurs. -/
theorem length_le (o : Occurrence phrase input) : phrase.length ≤ input.length := by
  rw [o.cut, List.length_append, List.length_append, o.length_words]
  omega

/-- The phrase occurs in itself. -/
def refl (phrase : List Token) : Occurrence phrase phrase where
  before := []
  words := phrase
  after := []
  cut := (List.append_nil phrase).symm
  matched := List.forall₂_same.2 fun _ _ => .inl rfl

end Occurrence

/-! ## The endings of the scan -/

/-- The score of a phrase for a request, by how the scan ends. -/
inductive Scored (phrase input : List Token) : Option Score → Prop
  /-- The two are not compared. -/
  | refused (h : ¬ Compared phrase input) : Scored phrase input none
  /-- The request is the phrase. -/
  | whole (h : Compared phrase input) (same : input = phrase) :
      Scored phrase input (some .whole)
  /-- One of the best occurrences is kept. -/
  | window (h : Compared phrase input) (other : input ≠ phrase) (o : Occurrence phrase input)
      (best : ∀ o' : Occurrence phrase input, o'.window.grade ≤ o.window.grade) :
      Scored phrase input (some (.window o.window phrase.length input.length))
  /-- The phrase does not occur. -/
  | absent (h : Compared phrase input) (other : input ≠ phrase)
      (nowhere : IsEmpty (Occurrence phrase input)) : Scored phrase input none

theorem compared_iff :
    Compared phrase input ↔
      ¬ (input.isEmpty || phrase.isEmpty || input.all isStopword) = true := by
  simp only [Bool.or_eq_true, List.isEmpty_iff, List.all_eq_true, isStopword,
    List.contains_iff_mem, not_or, not_forall, exists_prop]
  exact ⟨fun h => ⟨⟨h.input_ne, h.phrase_ne⟩, h.meaning⟩, fun h => ⟨h.1.1, h.1.2, h.2⟩⟩

/-- **Every scan has one of the four endings.** -/
theorem scoreTokens_scored (phrase input : List Token) :
    Scored phrase input (scoreTokens input phrase) := by
  unfold scoreTokens
  by_cases hcompared : Compared phrase input
  · rw [if_neg (compared_iff.1 hcompared)]
    by_cases hsame : input = phrase
    · rw [if_pos hsame]
      exact .whole hcompared hsame
    · rw [if_neg hsame]
      obtain ⟨o, hbest, hmax⟩ | ⟨hbest, hnone⟩ :=
        bestWindow_windows input hcompared.phrase_ne
      · rw [hbest]
        exact .window hcompared hsame o hmax
      · rw [hbest]
        exact .absent hcompared hsame hnone
  · rw [if_pos (not_not.1 (mt compared_iff.2 hcompared))]
    exact .refused hcompared

theorem score_scored (input phrase : String) :
    Scored (wordsOf phrase) (wordsOf input) (score input phrase) :=
  scoreTokens_scored _ _

namespace Scored

variable {result : Option Score} {s : Score}

theorem counted (h : Scored phrase input (some s)) : s.Counted := by
  cases h with
  | whole => trivial
  | window h _ o => exact ⟨o.length_le, List.length_pos_iff.2 h.input_ne⟩

/-- **A score is given where the phrase occurs.** -/
theorem isSome_iff (h : Scored phrase input result) :
    result.isSome = true ↔ Compared phrase input ∧ Nonempty (Occurrence phrase input) := by
  cases h with
  | refused h => exact iff_of_false Bool.false_ne_true fun hboth => h hboth.1
  | whole h same =>
    subst same
    exact iff_of_true rfl ⟨h, ⟨.refl _⟩⟩
  | window h _ o => exact iff_of_true rfl ⟨h, ⟨o⟩⟩
  | absent _ _ nowhere =>
    exact iff_of_false Bool.false_ne_true fun hboth => not_isEmpty_iff.2 hboth.2 nowhere

end Scored

/-! ## The value of a score -/

theorem value_pos (s : Score) : 0 < s.value := by
  cases s with
  | whole => exact one_pos
  | window best p n =>
    have hshare : (0 : Rat) ≤ p / n := div_nonneg (Nat.cast_nonneg _) (Nat.cast_nonneg _)
    have hworth := (worth_bounds best).1
    rw [value_window]
    linarith

theorem scoreValue_pos {result : Option Score} :
    0 < scoreValue result ↔ result.isSome = true := by
  cases result with
  | none => exact iff_of_false (lt_irrefl _) Bool.false_ne_true
  | some s => exact iff_of_true (value_pos s) rfl

theorem scoreNumber_pos {result : Option Score} (h : Scored phrase input result) :
    (hundredths 0).lt (scoreNumber result) = true ↔ result.isSome = true := by
  cases result with
  | none => exact iff_of_false (Binary64.lt_irrefl _) Bool.false_ne_true
  | some s =>
    exact iff_of_true (Binary64.lt_of_lt_of_le hundredths_apart.1 (sixty_le_number h.counted)) rfl

theorem worth_le_of_grade_le {o o' : Occurrence phrase input}
    (h : o'.window.grade ≤ o.window.grade) : o'.worth ≤ o.worth := by
  rw [o.worth_eq, o'.worth_eq, value_window, value_window]
  refine add_le_add_left ?_ _
  obtain hlt | heq := Nat.lt_or_eq_of_le h
  · have := worth_step hlt
    linarith
  · rw [grade_injective heq]

/-- **A score is positive exactly where the phrase occurs, and it is the
greatest worth of an occurrence.** Where the request is the phrase and
nothing else it is one. -/
theorem score_greatest (input phrase : String) :
    (0 < scoreValue (score input phrase) ↔
        Compared (wordsOf phrase) (wordsOf input) ∧
          Nonempty (Occurrence (wordsOf phrase) (wordsOf input))) ∧
      ((hundredths 0).lt (scoreNumber (score input phrase)) = true ↔
        0 < scoreValue (score input phrase)) ∧
      (0 < scoreValue (score input phrase) →
        if wordsOf input = wordsOf phrase then scoreValue (score input phrase) = 1
        else
          IsGreatest (Set.range fun o : Occurrence (wordsOf phrase) (wordsOf input) => o.worth)
            (scoreValue (score input phrase))) := by
  have hscored := score_scored input phrase
  refine ⟨scoreValue_pos.trans hscored.isSome_iff,
    (scoreNumber_pos hscored).trans scoreValue_pos.symm, fun hpos => ?_⟩
  generalize score input phrase = result at hscored hpos ⊢
  cases hscored with
  | refused | absent => exact absurd hpos (lt_irrefl _)
  | whole _ same => rw [if_pos same]; rfl
  | window _ other o best =>
    rw [if_neg other]
    refine ⟨⟨o, o.worth_eq⟩, ?_⟩
    rintro _ ⟨o', rfl⟩
    exact (worth_le_of_grade_le (best o')).trans_eq o.worth_eq

end Match

end Amanuensis
