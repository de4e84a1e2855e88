import Amanuensis.Binary64.Basic
/-!
# The order of doubles

Comparisons of doubles chain as those of numbers do, and none of them holds
of a NaN. A number held between two bounds keeps its place: it reaches what
both the number and the lower bound reach (`clamp_le`), and what a greater
number reaches when it is held, a lesser one reaches too (`clamp_le_of_le`).
-/


namespace Amanuensis

namespace Binary64

variable {x y z low high : Binary64}

theorem le_iff_rank : x.le y = true ↔ (x.isNaN = false ∧ y.isNaN = false) ∧ x.rank ≤ y.rank := by
  simp only [le, Bool.and_eq_true, Bool.not_eq_true', decide_eq_true_eq]

theorem lt_iff_rank : x.lt y = true ↔ (x.isNaN = false ∧ y.isNaN = false) ∧ x.rank < y.rank := by
  simp only [lt, Bool.and_eq_true, Bool.not_eq_true', decide_eq_true_eq]

theorem lt_irrefl (x : Binary64) : ¬ x.lt x = true := fun h =>
  Int.lt_irrefl _ (lt_iff_rank.1 h).2

theorem le_of_lt (h : x.lt y = true) : x.le y = true :=
  le_iff_rank.2 ⟨(lt_iff_rank.1 h).1, Int.le_of_lt (lt_iff_rank.1 h).2⟩

theorem le_trans (hxy : x.le y = true) (hyz : y.le z = true) : x.le z = true := by
  rw [le_iff_rank] at hxy hyz ⊢
  exact ⟨⟨hxy.1.1, hyz.1.2⟩, Int.le_trans hxy.2 hyz.2⟩

theorem lt_of_le_of_lt (hxy : x.le y = true) (hyz : y.lt z = true) : x.lt z = true := by
  rw [le_iff_rank] at hxy
  rw [lt_iff_rank] at hyz ⊢
  exact ⟨⟨hxy.1.1, hyz.1.2⟩, Int.lt_of_le_of_lt hxy.2 hyz.2⟩

theorem lt_of_lt_of_le (hxy : x.lt y = true) (hyz : y.le z = true) : x.lt z = true := by
  rw [le_iff_rank] at hyz
  rw [lt_iff_rank] at hxy ⊢
  exact ⟨⟨hxy.1.1, hyz.1.2⟩, Int.lt_of_lt_of_le hxy.2 hyz.2⟩

theorem not_lt_of_le (h : x.le y = true) : y.lt x = false := by
  rw [Bool.eq_false_iff]
  exact fun hlt => Int.not_lt.2 (le_iff_rank.1 h).2 (lt_iff_rank.1 hlt).2

theorem le_of_not_lt (hx : x.isNaN = false) (hy : y.isNaN = false) (h : ¬ y.lt x = true) :
    x.le y = true :=
  le_iff_rank.2 ⟨⟨hx, hy⟩, Int.not_lt.1 fun hlt => h (lt_iff_rank.2 ⟨⟨hy, hx⟩, hlt⟩)⟩

theorem not_le_of_isNaN (h : x.isNaN = true) : x.le y = false := by
  rw [Bool.eq_false_iff]
  exact fun hle => Bool.false_ne_true ((le_iff_rank.1 hle).1.1.symm.trans h)

/-! ## Numbers held between two bounds -/

/-- Everything that both the number and the lower bound reach is reached. -/
theorem clamp_le (hx : x.le y = true) (hlow : low.le y = true) :
    (x.clamp low high).le y = true := by
  unfold clamp
  split
  · exact hlow
  · split
    · rename_i hhigh
      exact le_of_lt (lt_of_lt_of_le hhigh hx)
    · exact hx

/-- Everything that reaches both the number and the upper bound reaches. -/
theorem le_clamp (hx : y.le x = true) (hhigh : y.le high = true) :
    y.le (x.clamp low high) = true := by
  unfold clamp
  split
  · rename_i hlow
    exact le_of_lt (lt_of_le_of_lt hx hlow)
  · split
    · exact hhigh
    · exact hx

/-- A number between the bounds stays. -/
theorem clamp_eq_self (hlow : low.le x = true) (hhigh : x.le high = true) :
    x.clamp low high = x := by
  rw [clamp, not_lt_of_le hlow, not_lt_of_le hhigh]
  rfl

/-- A NaN is not held. -/
theorem clamp_isNaN (h : x.isNaN = true) : x.clamp low high = x := by
  simp [clamp, lt, h]

/-- What the greater of two numbers reaches when it is held, the lesser
reaches too. -/
theorem clamp_le_of_le (hxy : x.le y = true) (hlow : low.le z = true)
    (hy : (y.clamp low high).le z = true) : (x.clamp low high).le z = true := by
  unfold clamp at hy
  split at hy
  · rename_i hylow
    rw [clamp, if_pos (lt_of_le_of_lt hxy hylow)]
    exact hy
  · split at hy
    · by_cases hhigh : high.lt x = true
      · unfold clamp
        rw [if_pos hhigh]
        split
        · exact hlow
        · exact hy
      · have hle := le_of_not_lt (le_iff_rank.1 hxy).1.1 (le_iff_rank.1 hy).1.1 hhigh
        exact clamp_le (le_trans hle hy) hlow
    · exact clamp_le (le_trans hxy hy) hlow

end Binary64

end Amanuensis
