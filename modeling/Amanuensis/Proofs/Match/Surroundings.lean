import Amanuensis.Proofs.Match.Classes
import Amanuensis.Proofs.Match.Spelling
/-!
# A request among other words

Words around a request take no match from it (`match_kept`). Text beyond a
space keeps its words, so an occurrence in a request is one in the longer text
as well (`Occurrence.within`), and it stands for the same words there. What it
can lose is its place at the start, to words in front. And a request that is
the phrase is no longer the phrase with other words around it, but opens with
it still.
-/


namespace Amanuensis

namespace Match

variable {phrase input before after : List Token} {result : Option Score}

/-! ## Occurrences in a longer request -/

/-- An occurrence in a request is one in the request among other words. -/
def Occurrence.within (o : Occurrence phrase input) (before after : List Token) :
    Occurrence phrase (before ++ input ++ after) where
  before := before ++ o.before
  words := o.words
  after := o.after ++ after
  cut := by
    calc before ++ input ++ after
        = before ++ (o.before ++ o.words ++ o.after) ++ after := by rw [← o.cut]
      _ = before ++ o.before ++ o.words ++ (o.after ++ after) := by simp only [List.append_assoc]
  matched := o.matched

/-- Its grade is the same one, except for a place at the start. -/
theorem Occurrence.within_grade (o : Occurrence phrase input) (before after : List Token) :
    (before = [] → (o.within before after).window.grade = o.window.grade) ∧
      (3 ≤ o.window.grade → 3 ≤ (o.within before after).window.grade) := by
  have hwords : (o.within before after).words = o.words := rfl
  have hbefore : (o.within before after).before = before ++ o.before := rfl
  constructor
  · rintro rfl
    rw [Occurrence.grade_eq, Occurrence.grade_eq, hwords, hbefore, List.nil_append]
  · -- only whole words have such a grade, and they keep it but for the place
    intro hgrade
    by_cases hwhole : o.words = phrase
    · rw [Occurrence.grade_eq, hwords, if_pos hwhole]
      exact Nat.le_add_right _ _
    · rw [Occurrence.grade_eq, if_neg hwhole] at hgrade
      split at hgrade <;> omega

/-- Words around a request do not keep it from being compared. -/
theorem Compared.within (h : Compared phrase input) (before after : List Token) :
    Compared phrase (before ++ input ++ after) := by
  obtain ⟨word, hword, hmeaning⟩ := h.meaning
  have hmem : word ∈ before ++ input ++ after :=
    List.mem_append_left _ (List.mem_append_right _ hword)
  exact ⟨List.ne_nil_of_mem hmem, h.phrase_ne, word, hmem, hmeaning⟩

/-! ## The grade of a longer request -/

/-- No occurrence is better than the score says. -/
theorem Scored.grade_le (h : Scored phrase input result) (hcompared : Compared phrase input)
    (o : Occurrence phrase input) : o.window.grade ≤ gradeOf result := by
  cases h with
  | refused hrefused => exact absurd hcompared hrefused
  | whole => exact Nat.le_succ_of_le (grade_le_four _)
  | window _ _ _ best => exact best o
  | absent _ _ nowhere => exact nowhere.elim o

/-- And some occurrence is as good as it says; in the phrase itself it is the
phrase at the start. -/
theorem Scored.exists_occurrence (h : Scored phrase input result) (hpos : 0 < gradeOf result) :
    Compared phrase input ∧
      ∃ o : Occurrence phrase input, o.window.grade = min (gradeOf result) 4 := by
  cases h with
  | refused | absent => exact absurd hpos (Nat.lt_irrefl 0)
  | whole hcompared same =>
    subst same
    have hwords : (Occurrence.refl input).words = input := rfl
    have hbefore : (Occurrence.refl input).before = [] := rfl
    refine ⟨hcompared, .refl _, ?_⟩
    rw [Occurrence.grade_eq, if_pos hwords, if_pos hbefore]
    rfl
  | window hcompared _ o _ =>
    exact ⟨hcompared, o, (Nat.min_eq_left (grade_le_four _)).symm⟩

/-- The phrase occurs among other words as well as in the request, with words
behind it at the same place. -/
theorem grade_within (phrase input before after : List Token) :
    (0 < gradeOf (scoreTokens input phrase) →
        0 < gradeOf (scoreTokens (before ++ input ++ after) phrase)) ∧
      (3 ≤ gradeOf (scoreTokens input phrase) →
        3 ≤ gradeOf (scoreTokens (before ++ input ++ after) phrase)) ∧
      (before = [] → min (gradeOf (scoreTokens input phrase)) 4 ≤
        gradeOf (scoreTokens (before ++ input ++ after) phrase)) := by
  have hscored := scoreTokens_scored phrase input
  have hscored' := scoreTokens_scored phrase (before ++ input ++ after)
  obtain hnone | hpos := Nat.eq_zero_or_pos (gradeOf (scoreTokens input phrase))
  · rw [hnone]
    exact ⟨fun h => absurd h (by decide), fun h => absurd h (by decide), fun _ => Nat.zero_le _⟩
  -- what is as good as the score says is found in the longer request as well
  obtain ⟨hcompared, o, hgrade⟩ := hscored.exists_occurrence hpos
  have hle := hscored'.grade_le (hcompared.within before after) (o.within before after)
  obtain ⟨hsame, hwhole⟩ := o.within_grade before after
  have hsome : 0 < (o.within before after).window.grade := by
    rw [Occurrence.grade_eq]
    split <;> omega
  refine ⟨fun _ => Nat.lt_of_lt_of_le hsome hle, fun hthree => ?_, fun hbefore => ?_⟩
  · exact Nat.le_trans (hwhole (hgrade ▸ le_min hthree (by decide))) hle
  · exact hgrade ▸ hsame hbefore ▸ hle

/-! ## The class of a match -/

/-- The likeness that a score stands for. -/
def likenessOf : Option Score → Likeness
  | none => .none
  | some .whole => .exact
  | some (.window ⟨.word, true⟩ _ _) => .wordAtStart
  | some (.window ⟨.word, false⟩ _ _) => .wordLater
  | some (.window ⟨.stem, true⟩ _ _) => .stemAtStart
  | some (.window ⟨.stem, false⟩ _ _) => .stemLater

/-- The class of the match of a phrase in a request. -/
def likeness (input phrase : String) : Likeness := likenessOf (score input phrase)

/-- A class is at least another one, but for a request that was the phrase and
now opens with it. -/
def Likeness.KeptAs (like like' : Likeness) : Prop :=
  like.rank ≤ like'.rank ∨ like = .exact ∧ like' = .wordAtStart

theorem rank_likenessOf (result : Option Score) :
    (likenessOf result).rank = gradeOf result := by
  obtain _ | _ | ⟨⟨_ | _, _ | _⟩, _, _⟩ := result <;> rfl

/-- **The class says how like the words are.** -/
theorem alike_likeness (input phrase : String) :
    Alike (wordsOf phrase) (wordsOf input) (likeness input phrase) := by
  obtain ⟨like, halike, -⟩ := existsUnique_alike (wordsOf phrase) (wordsOf input)
  have hrank : (likeness input phrase).rank = like.rank := by
    rw [likeness, rank_likenessOf, halike.grade_eq (score_scored input phrase)]
  exact rank_injective hrank ▸ halike

theorem positive_iff_rank {input phrase : String} :
    Positive input phrase ↔ 0 < (likeness input phrase).rank := by
  rw [positive_iff, likeness, rank_likenessOf]
  obtain _ | s := score input phrase
  · exact iff_of_false Bool.false_ne_true (Nat.lt_irrefl 0)
  · refine iff_of_true rfl ?_
    obtain _ | ⟨⟨_ | _, _ | _⟩, _, _⟩ := s <;> exact Nat.succ_pos _

theorem Likeness.keptAs_of_le {like like' : Likeness} (h : min like.rank 4 ≤ like'.rank) :
    like.KeptAs like' := by
  revert h
  cases like <;> cases like' <;> simp only [Likeness.KeptAs, Likeness.rank] <;> decide

/-! ## Texts on both sides of a request -/

/-- **Words around a request take no match from it.** A phrase that matches
the request matches it between any two texts. With text behind it, and none
that has words in front, the class of the match is kept; with text in front a
match by whole words remains one, whatever is behind. -/
theorem match_kept (input phrase front back : String) :
    (Positive input phrase → Positive (front ++ " " ++ input ++ " " ++ back) phrase) ∧
      (likeness input phrase).KeptAs (likeness (input ++ " " ++ back) phrase) ∧
      (wordsOf front = [] →
        (likeness input phrase).KeptAs
          (likeness (front ++ " " ++ input ++ " " ++ back) phrase)) ∧
      (Likeness.wordLater.rank ≤ (likeness input phrase).rank →
        Likeness.wordLater.rank ≤ (likeness (front ++ " " ++ input) phrase).rank ∧
          Likeness.wordLater.rank ≤
            (likeness (front ++ " " ++ input ++ " " ++ back) phrase).rank) := by
  have hback : wordsOf (input ++ " " ++ back) = [] ++ wordsOf input ++ wordsOf back := by
    rw [wordsOf_append_space, List.nil_append]
  have hfront : wordsOf (front ++ " " ++ input) = wordsOf front ++ wordsOf input ++ [] := by
    rw [wordsOf_append_space, List.append_nil]
  have hboth : wordsOf (front ++ " " ++ input ++ " " ++ back) =
      wordsOf front ++ wordsOf input ++ wordsOf back := by
    rw [wordsOf_append_space, wordsOf_append_space]
  have hrank : ∀ text words, wordsOf text = words →
      (likeness text phrase).rank = gradeOf (scoreTokens words (wordsOf phrase)) := by
    rintro text _ rfl
    exact rank_likenessOf _
  have hgrade := grade_within (wordsOf phrase) (wordsOf input)
  have hinput := hrank input _ rfl
  refine ⟨fun h => ?_, ?_, fun hnone => ?_, fun h => ⟨?_, ?_⟩⟩
  · rw [positive_iff_rank, hrank _ _ hboth]
    exact (hgrade _ _).1 (hinput ▸ positive_iff_rank.1 h)
  · refine Likeness.keptAs_of_le ?_
    rw [hrank _ _ hback, hinput]
    exact (hgrade _ _).2.2 rfl
  · refine Likeness.keptAs_of_le ?_
    rw [hrank _ _ hboth, hinput]
    exact (hgrade _ _).2.2 hnone
  · rw [hrank _ _ hfront]
    exact (hgrade _ _).2.1 (hinput ▸ h)
  · rw [hrank _ _ hboth]
    exact (hgrade _ _).2.1 (hinput ▸ h)

/-- A final sigma ends its word among others too. -/
theorem match_kept_road :
    Positive "ΟΔΟΣ" "οδος" ∧ Positive "Η ΟΔΟΣ ΜΟΥ" "οδος" ∧
      likeness "ΟΔΟΣ" "οδος" = .exact ∧ likeness "ΟΔΟΣ ΜΟΥ" "οδος" = .wordAtStart := by
  have hpositive : Positive "ΟΔΟΣ" "οδος" := positive_iff.2 (by decide +kernel)
  exact ⟨hpositive, (match_kept "ΟΔΟΣ" "οδος" "Η" "ΜΟΥ").1 hpositive, by decide +kernel⟩

/-- With words in front a place at the start is lost. -/
example : likeness "researching ink" "research" = .stemAtStart ∧
    likeness "notes on researching ink" "research" = .stemLater := by decide +kernel

end Match

end Amanuensis
