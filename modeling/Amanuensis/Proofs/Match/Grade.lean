import Amanuensis.Match.Score
import Amanuensis.Proofs.Binary64.Rounding
/-!
# The bounds of a score

The double of a score is monotone in the share of the request that the
phrase covers (`numberAt_mono`). It therefore lies between its values at the
shares zero and one, which are four pairs of constants, one for each grade of
window, and no two of them overlap (`numberAt_lt`). Holding the number
between zero and one changes nothing (`number_window`).
-/


namespace Amanuensis

namespace Match

open Binary64

variable {v w : Window} {share share' : Binary64} {phraseWords inputWords n : Nat}

theorem hundredths_unsigned (n : Nat) : (hundredths n).Unsigned := nearest_unsigned _ _

theorem hundredths_zero_le {x : Binary64} (h : x.Unsigned) : (hundredths 0).le x = true := by
  have hzero : (hundredths 0).magnitudeBits = nearestBits 0 100 := by
    rw [hundredths, ofRatio, Nat.zero_mul, nearest_magnitudeBits]
  rw [(hundredths_unsigned 0).le_iff h, hzero, show nearestBits 0 100 = 0 from rfl]
  exact Nat.zero_le _

theorem hundredths_mono {m n : Nat} (h : m ≤ n) : (hundredths m).le (hundredths n) = true := by
  have hpos : 0 < 100 := by decide
  exact Unsigned.nearest_mono hpos hpos (Nat.mul_le_mul_right 100 (Nat.mul_le_mul_right unit h))

/-- The double that follows nineteen twentieths. -/
def after95 : Binary64 := ⟨(hundredths 95).bits + 1⟩

/-- Zero lies below six tenths, and the double that follows nineteen twentieths
between these and one. -/
theorem hundredths_apart :
    (hundredths 0).lt (hundredths 60) = true ∧ (hundredths 95).lt after95 = true ∧
      after95.lt (hundredths 100) = true := by
  decide +kernel

theorem zero_lt_hundredths (h : 60 ≤ n) : (hundredths 0).lt (hundredths n) = true :=
  lt_of_lt_of_le hundredths_apart.1 (hundredths_mono h)

/-! ## The share -/

/-- The share of a request that a phrase covers. -/
def shareOf (phraseWords inputWords : Nat) : Binary64 :=
  (Binary64.ofNat phraseWords).div (Binary64.ofNat inputWords)

theorem ofNat_unsigned (n : Nat) : (Binary64.ofNat n).Unsigned := nearest_unsigned _ _

theorem shareOf_unsigned (phraseWords inputWords : Nat) :
    (shareOf phraseWords inputWords).Unsigned :=
  (ofNat_unsigned _).div (ofNat_unsigned _)

theorem ofNat_mono {m n : Nat} (h : m ≤ n) :
    (Binary64.ofNat m).magnitude ≤ (Binary64.ofNat n).magnitude :=
  (ofNat_unsigned m).magnitude_le (ofNat_unsigned n)
    (Unsigned.nearest_mono Nat.one_pos Nat.one_pos
      (Nat.mul_le_mul_right 1 (Nat.mul_le_mul_right unit h)))

theorem ofNat_magnitude_pos (h : 0 < n) : 0 < (Binary64.ofNat n).magnitude :=
  calc 0 < 1 * unit := Nat.mul_pos Nat.one_pos unit_pos
    _ = (Binary64.ofNat 1).magnitude := (ofNat_magnitude (by decide)).symm
    _ ≤ (Binary64.ofNat n).magnitude := ofNat_mono h

/-- The share is at most one. -/
theorem shareOf_le_one (h : phraseWords ≤ inputWords) (hpos : 0 < inputWords) :
    (shareOf phraseWords inputWords).le (hundredths 100) = true := by
  refine Unsigned.div_mono (ofNat_unsigned _) (ofNat_unsigned _) (ofNat_magnitude_pos hpos)
    (by decide) ?_
  rw [Nat.mul_comm]
  exact Nat.mul_le_mul_left 100 (ofNat_mono h)

/-- A share that is less than one is less by its denominator, as long as
the counts are doubles themselves. -/
theorem shareOf_le_pred {most : Nat} (h : phraseWords < inputWords) (hmost : inputWords ≤ most)
    (hexact : inputWords < 2 * Nat.pow 2 52) :
    (shareOf phraseWords inputWords).le (.ofRatio false (most - 1) most) = true := by
  refine Unsigned.div_mono (ofNat_unsigned _) (ofNat_unsigned _)
    (ofNat_magnitude_pos (Nat.zero_lt_of_lt h)) (by omega) ?_
  rw [ofNat_magnitude hexact, ofNat_magnitude (Nat.lt_trans h hexact), Nat.mul_right_comm,
    ← Nat.mul_assoc]
  refine Nat.mul_le_mul_right unit ?_
  have hstep : most * (phraseWords + 1) ≤ most * inputWords := Nat.mul_le_mul_left most h
  rw [Nat.mul_succ] at hstep
  rw [Nat.sub_mul, Nat.one_mul, Nat.mul_comm phraseWords]
  omega

/-- The fewest words of a request that is rounded up to nineteen twentieths
for a phrase of one word less, which no memory holds (`numberAt_full`). -/
def fullWords : Nat := 383285074669830

/-- The greatest share below one of a request of fewer words. -/
def greatestShare : Binary64 := .ofRatio false (fullWords - 1 - 1) (fullWords - 1)

/-! ## The number of a window -/

/-- What a window is worth by itself, as a double. -/
def Window.base (w : Window) : Binary64 :=
  w.fit.number.add (hundredths (if w.atStart then 10 else 0))

/-- What a window is worth with a share of the request. -/
def Window.numberAt (w : Window) (share : Binary64) : Binary64 :=
  w.base.add ((hundredths 5).mul share)

theorem base_unsigned (w : Window) : w.base.Unsigned := by
  have hfit : w.fit.number.Unsigned := by
    cases w.fit <;> exact hundredths_unsigned _
  exact hfit.add (hundredths_unsigned _)

theorem numberAt_unsigned (h : share.Unsigned) : (w.numberAt share).Unsigned :=
  (base_unsigned w).add ((hundredths_unsigned 5).mul h)

/-- **A greater share is worth no less.** -/
theorem numberAt_mono (h : share.Unsigned) (h' : share'.Unsigned) (hle : share.le share' = true) :
    (w.numberAt share).le (w.numberAt share') = true := by
  have hrefl : ∀ {x : Binary64}, x.Unsigned → x.le x = true := fun hx =>
    (hx.le_iff hx).2 (Nat.le_refl _)
  have hfive := hundredths_unsigned 5
  exact Unsigned.add_mono (base_unsigned w) (hfive.mul h) (base_unsigned w) (hfive.mul h')
    (hrefl (base_unsigned w)) (Unsigned.mul_mono hfive h hfive h' (hrefl hfive) hle)

/-- Every window is worth six tenths, none with the greatest share nineteen
twentieths, and none with all of it more than the double that follows. -/
theorem numberAt_ends (w : Window) :
    (hundredths 60).le (w.numberAt (hundredths 0)) = true ∧
      (w.numberAt greatestShare).lt (hundredths 95) = true ∧
      (w.numberAt (hundredths 100)).le after95 = true := by
  obtain ⟨_ | _, _ | _⟩ := w <;> decide +kernel

/-- With one word more than `greatestShare` is for, the words at the start
reach nineteen twentieths. -/
theorem numberAt_full :
    (⟨.word, true⟩ : Window).numberAt (shareOf (fullWords - 1) fullWords) = hundredths 95 := by
  decide +kernel

/-- **Grades do not overlap**: the better window is worth more without any
share than the other with all of it. -/
theorem numberAt_lt (h : v.grade < w.grade) :
    (v.numberAt (hundredths 100)).lt (w.numberAt (hundredths 0)) = true := by
  revert h
  obtain ⟨_ | _, _ | _⟩ := v <;> obtain ⟨_ | _, _ | _⟩ := w <;> decide +kernel

/-- No window is worth as much as the whole. -/
theorem numberAt_one_lt (w : Window) :
    (w.numberAt (hundredths 100)).lt (hundredths 100) = true :=
  lt_of_le_of_lt (numberAt_ends w).2.2 hundredths_apart.2.2

/-- Only words at the start come near to nineteen twentieths. -/
theorem numberAt_one_lt_95 (h : w.grade < 4) :
    (w.numberAt (hundredths 100)).lt (hundredths 95) = true := by
  have hword := numberAt_lt (w := ⟨.word, true⟩) h
  have hshare : greatestShare.Unsigned := nearest_unsigned _ _
  have hmore := numberAt_mono (w := ⟨.word, true⟩) (hundredths_unsigned 0) hshare
    (hundredths_zero_le hshare)
  exact lt_of_lt_of_le hword (le_of_lt (lt_of_le_of_lt hmore (numberAt_ends _).2.1))

/-! ## Scores of one grade and of another -/

/-- The number of a window lies between those of its grade. -/
theorem numberAt_bounds (hle : phraseWords ≤ inputWords) (hpos : 0 < inputWords) :
    (w.numberAt (hundredths 0)).le (w.numberAt (shareOf phraseWords inputWords)) = true ∧
      (w.numberAt (shareOf phraseWords inputWords)).le (w.numberAt (hundredths 100)) = true :=
  have hshare := shareOf_unsigned phraseWords inputWords
  ⟨numberAt_mono (hundredths_unsigned 0) hshare (hundredths_zero_le hshare),
    numberAt_mono hshare (hundredths_unsigned 100) (shareOf_le_one hle hpos)⟩

/-- **Holding the number between zero and one changes nothing.** -/
theorem number_window (hle : phraseWords ≤ inputWords) (hpos : 0 < inputWords) :
    Score.number (.window w phraseWords inputWords) =
      w.numberAt (shareOf phraseWords inputWords) := by
  have hlow := hundredths_zero_le (numberAt_unsigned (w := w)
    (shareOf_unsigned phraseWords inputWords))
  have hhigh := le_of_lt
    (lt_of_le_of_lt (numberAt_bounds (w := w) hle hpos).2 (numberAt_one_lt w))
  exact clamp_eq_self hlow hhigh

/-- The grade of a score: the whole above every window. -/
def Score.grade : Score → Nat
  | .whole => 5
  | .window best _ _ => best.grade

/-- The counts of a score are those of a phrase inside a request. -/
def Score.Counted : Score → Prop
  | .whole => True
  | .window _ phraseWords inputWords => phraseWords ≤ inputWords ∧ 0 < inputWords

variable {s t : Score}

theorem grade_le_four (w : Window) : w.grade ≤ 4 := by
  obtain ⟨_ | _, _ | _⟩ := w <;> decide

theorem grade_le_five (s : Score) : s.grade ≤ 5 := by
  cases s with
  | whole => exact Nat.le_refl _
  | window best _ _ => exact Nat.le_succ_of_le (grade_le_four best)

theorem grade_injective (h : v.grade = w.grade) : v = w := by
  revert h
  obtain ⟨_ | _, _ | _⟩ := v <;> obtain ⟨_ | _, _ | _⟩ := w <;> decide

theorem number_unsigned (h : s.Counted) : s.number.Unsigned := by
  cases s with
  | whole => exact hundredths_unsigned 100
  | window best phraseWords inputWords =>
    rw [number_window h.1 h.2]
    exact numberAt_unsigned (shareOf_unsigned phraseWords inputWords)

/-- **A better grade is a greater number**, whatever the two shares are. -/
theorem number_lt (hs : s.Counted) (ht : t.Counted) (h : s.grade < t.grade) :
    s.number.lt t.number = true := by
  cases s with
  | whole => exact absurd (grade_le_five t) (Nat.not_le.2 h)
  | window v p n =>
    rw [number_window hs.1 hs.2]
    refine lt_of_le_of_lt (numberAt_bounds hs.1 hs.2).2 ?_
    cases t with
    | whole => exact numberAt_one_lt v
    | window w p' n' =>
      rw [number_window ht.1 ht.2]
      exact lt_of_lt_of_le (numberAt_lt h) (numberAt_bounds ht.1 ht.2).1

theorem sixty_le_number (h : s.Counted) : (hundredths 60).le s.number = true := by
  cases s with
  | whole => exact hundredths_mono (by decide)
  | window best _ _ =>
    rw [number_window h.1 h.2]
    exact Binary64.le_trans (numberAt_ends best).1 (numberAt_bounds h.1 h.2).1

theorem number_le_hundred (h : s.Counted) : s.number.le (hundredths 100) = true := by
  cases s with
  | whole => exact hundredths_mono (Nat.le_refl 100)
  | window best _ _ =>
    rw [number_window h.1 h.2]
    exact le_of_lt (lt_of_le_of_lt (numberAt_bounds h.1 h.2).2 (numberAt_one_lt best))

/-- Only the whole goes beyond nineteen twentieths by more than a rounding. -/
theorem number_le_after95 (hle : phraseWords ≤ inputWords) (hpos : 0 < inputWords) :
    (Score.number (.window w phraseWords inputWords)).le after95 = true := by
  rw [number_window hle hpos]
  exact Binary64.le_trans (numberAt_bounds hle hpos).2 (numberAt_ends w).2.2

/-- In a request of fewer than `fullWords` words nothing but the whole comes
near to nineteen twentieths. -/
theorem number_lt_95 (hpart : w.grade < 4 ∨ phraseWords < inputWords)
    (hle : phraseWords ≤ inputWords) (hpos : 0 < inputWords) (hshort : inputWords < fullWords) :
    (Score.number (.window w phraseWords inputWords)).lt (hundredths 95) = true := by
  rw [number_window hle hpos]
  obtain hgrade | hlt := hpart
  · exact lt_of_le_of_lt (numberAt_bounds hle hpos).2 (numberAt_one_lt_95 hgrade)
  · have hexact : fullWords ≤ 2 * Nat.pow 2 52 := by decide
    have hshare : (shareOf phraseWords inputWords).le greatestShare = true :=
      shareOf_le_pred hlt (Nat.le_pred_of_lt hshort) (Nat.lt_of_lt_of_le hshort hexact)
    have hgreatest : greatestShare.Unsigned := nearest_unsigned _ _
    exact lt_of_le_of_lt (numberAt_mono (shareOf_unsigned _ _) hgreatest hshare)
      (numberAt_ends w).2.1

/-! ## The exact value -/

/-- What a window is worth by itself. -/
def Window.worth (w : Window) : Rat := w.fit.worth + if w.atStart then 1 / 10 else 0

theorem value_window (w : Window) (phraseWords inputWords : Nat) :
    Score.value (.window w phraseWords inputWords) =
      w.worth + 5 / 100 * ((phraseWords : Rat) / inputWords) := rfl

theorem share_bounds (hle : phraseWords ≤ inputWords) :
    0 ≤ (phraseWords : Rat) / inputWords ∧ (phraseWords : Rat) / inputWords ≤ 1 :=
  ⟨div_nonneg (Nat.cast_nonneg _) (Nat.cast_nonneg _),
    div_le_one_of_le₀ (Nat.cast_le.2 hle) (Nat.cast_nonneg _)⟩

/-- Better windows are worth a tenth more, which is twice the whole share. -/
theorem worth_step (h : v.grade < w.grade) : v.worth + 1 / 10 ≤ w.worth := by
  revert h
  obtain ⟨_ | _, _ | _⟩ := v <;> obtain ⟨_ | _, _ | _⟩ := w <;>
    norm_num [Window.grade, Window.worth, Fit.worth]

theorem worth_bounds (w : Window) : 6 / 10 ≤ w.worth ∧ w.worth ≤ 9 / 10 := by
  obtain ⟨_ | _, _ | _⟩ := w <;> norm_num [Window.worth, Fit.worth]

theorem value_le_one (h : s.Counted) : s.value ≤ 1 := by
  cases s with
  | whole => exact le_refl _
  | window best p n =>
    have hshare := (share_bounds h.1).2
    have hworth := (worth_bounds best).2
    rw [value_window]
    linarith

theorem sixty_le_value (h : s.Counted) : 6 / 10 ≤ s.value := by
  cases s with
  | whole => norm_num [Score.value]
  | window best p n =>
    have hshare := (share_bounds h.1).1
    have hworth := (worth_bounds best).1
    rw [value_window]
    linarith

theorem value_lt_95 (hpart : w.grade < 4 ∨ phraseWords < inputWords)
    (hle : phraseWords ≤ inputWords) (hpos : 0 < inputWords) :
    Score.value (.window w phraseWords inputWords) < 95 / 100 := by
  rw [value_window]
  obtain hgrade | hlt := hpart
  · have hstep := worth_step (w := ⟨.word, true⟩) hgrade
    have hworth := (worth_bounds ⟨.word, true⟩).2
    have hshare := (share_bounds hle).2
    linarith
  · have hshare : (phraseWords : Rat) / inputWords < 1 :=
      (div_lt_one₀ (Nat.cast_pos.2 hpos)).2 (Nat.cast_lt.2 hlt)
    have hworth := (worth_bounds w).2
    linarith

/-- A better grade is a greater value. -/
theorem value_lt (hs : s.Counted) (ht : t.Counted) (h : s.grade < t.grade) :
    s.value < t.value := by
  cases s with
  | whole => exact absurd (grade_le_five t) (Nat.not_le.2 h)
  | window v p n =>
    obtain ⟨-, hshare⟩ := share_bounds hs.1
    rw [value_window]
    cases t with
    | whole =>
      have hworth := (worth_bounds v).2
      rw [Score.value]
      linarith
    | window w p' n' =>
      obtain ⟨hshare', -⟩ := share_bounds ht.1
      have hstep := worth_step h
      rw [value_window]
      linarith

end Match

end Amanuensis
