import Amanuensis.Proofs.Binary64.Order
import Mathlib.Tactic.Linarith
/-!
# Rounding keeps the order

Every operation on doubles rounds an exact quotient once, and rounding
never puts a smaller quotient above a larger one (`nearestBits_mono`). On
numbers without a sign sums, products and quotients are therefore as
monotone as exact ones are (`Unsigned.add_mono`, `Unsigned.mul_mono`,
`Unsigned.div_mono`), and a bound on them is found by computing at the ends.
What takes 53 bits is not rounded at all (`ofNat_magnitude`).
-/


namespace Amanuensis

namespace Binary64

variable {a b c d : Nat}

/-! ## To the nearest integer -/

/-- A quotient is rounded up past the half, and at the half of an odd
integer. -/
theorem roundDiv_eq (num den : Nat) :
    roundDiv num den =
      if den < 2 * (num % den) ∨ den = 2 * (num % den) ∧ num / den % 2 = 1 then num / den + 1
      else num / den := by
  unfold roundDiv
  rcases Nat.lt_trichotomy (2 * (num % den)) den with hlt | heq | hgt
  · rw [Nat.compare_eq_lt.2 hlt]
    exact (if_neg (by omega)).symm
  · rw [Nat.compare_eq_eq.2 heq]
    dsimp only
    split <;> rename_i hparity
    · exact (if_neg (by omega)).symm
    · exact (if_pos (by omega)).symm
  · rw [Nat.compare_eq_gt.2 hgt]
    exact (if_pos (.inl hgt)).symm

theorem div_le_roundDiv (num den : Nat) : num / den ≤ roundDiv num den := by
  rw [roundDiv_eq]
  split
  · exact Nat.le_succ _
  · exact Nat.le_refl _

theorem roundDiv_le_succ (num den : Nat) : roundDiv num den ≤ num / den + 1 := by
  rw [roundDiv_eq]
  split
  · exact Nat.le_refl _
  · exact Nat.le_succ _

/-- An integer is not rounded. -/
theorem roundDiv_mul (n : Nat) {den : Nat} (h : 0 < den) : roundDiv (n * den) den = n := by
  rw [roundDiv_eq, Nat.mul_mod_left, Nat.mul_div_cancel n h]
  exact if_neg (by omega)

theorem div_le_div_of_mul_le (hb : 0 < b) (hd : 0 < d) (h : a * d ≤ c * b) : a / b ≤ c / d := by
  rw [Nat.le_div_iff_mul_le hd]
  refine Nat.le_of_mul_le_mul_right ?_ hb
  calc a / b * d * b = a / b * b * d := Nat.mul_right_comm _ _ _
    _ ≤ a * d := Nat.mul_le_mul_right d (Nat.div_mul_le_self a b)
    _ ≤ c * b := h

theorem roundDiv_mono (hb : 0 < b) (hd : 0 < d) (h : a * d ≤ c * b) :
    roundDiv a b ≤ roundDiv c d := by
  obtain hlt | heq := Nat.lt_or_eq_of_le (div_le_div_of_mul_le hb hd h)
  · calc roundDiv a b ≤ a / b + 1 := roundDiv_le_succ a b
      _ ≤ c / d := hlt
      _ ≤ roundDiv c d := div_le_roundDiv c d
  · -- between the same integers the fractions decide, and they are in order too
    have hrest : a % b * d ≤ c % d * b := by
      have hwhole : (b * (a / b) + a % b) * d ≤ (d * (c / d) + c % d) * b := by
        rwa [Nat.div_add_mod, Nat.div_add_mod]
      rw [heq] at hwhole
      linarith
    have hhalf : b ≤ 2 * (a % b) → d ≤ 2 * (c % d) := fun hle =>
      Nat.le_of_mul_le_mul_right (by nlinarith) hb
    have hpast : b < 2 * (a % b) → d < 2 * (c % d) := fun hlt =>
      Nat.lt_of_mul_lt_mul_right (a := b) (by nlinarith)
    rw [roundDiv_eq, roundDiv_eq, heq]
    split
    · rw [if_pos (by omega)]
    · split <;> omega

/-! ## To the nearest double -/

/-- How far the significand of the double nearest to a quotient is shifted. -/
def shiftOf (num den : Nat) : Nat := (num / den).log2 - 52

/-- The significand of the double nearest to a quotient. -/
def significandOf (num den : Nat) : Nat := roundDiv num (den * Nat.pow 2 (shiftOf num den))

theorem nearestBits_eq (num den : Nat) :
    nearestBits num den =
      min (shiftOf num den * Nat.pow 2 52 + significandOf num den) infinityBits := rfl

theorem shiftOf_mono (hb : 0 < b) (hd : 0 < d) (h : a * d ≤ c * b) : shiftOf a b ≤ shiftOf c d := by
  have hle := div_le_div_of_mul_le hb hd h
  refine Nat.sub_le_sub_right ?_ 52
  by_cases hzero : a / b = 0
  · simp [hzero]
  · have hpos : c / d ≠ 0 := fun hc => hzero (Nat.le_zero.1 (hc ▸ hle))
    exact (Nat.le_log2 hpos).2 (Nat.le_trans (Nat.log2_self_le hzero) hle)

/-- Before it is rounded a significand has 53 bits. -/
theorem div_shiftOf_lt (num den : Nat) :
    num / (den * Nat.pow 2 (shiftOf num den)) < 2 * Nat.pow 2 52 := by
  rw [← Nat.div_div_eq_div_mul]
  refine Nat.div_lt_of_lt_mul ?_
  calc num / den < 2 ^ ((num / den).log2 + 1) := Nat.lt_log2_self
    _ ≤ 2 ^ (shiftOf num den + 53) := Nat.pow_le_pow_right (by decide) (by unfold shiftOf; omega)
    _ = Nat.pow 2 (shiftOf num den) * (2 * Nat.pow 2 52) := Nat.pow_add 2 (shiftOf num den) 53

theorem significandOf_le (num den : Nat) : significandOf num den ≤ 2 * Nat.pow 2 52 :=
  Nat.le_trans (roundDiv_le_succ _ _) (div_shiftOf_lt num den)

/-- One that is shifted has its first bit. -/
theorem le_significandOf {num den : Nat} (h : 0 < shiftOf num den) :
    Nat.pow 2 52 ≤ significandOf num den := by
  refine Nat.le_trans ?_ (div_le_roundDiv _ _)
  have hlog : (num / den).log2 = 52 + shiftOf num den := by
    unfold shiftOf at h ⊢
    omega
  have hne : num / den ≠ 0 := fun hzero => by
    simp only [hzero, Nat.log2_zero] at hlog
    omega
  have hpos : 0 < Nat.pow 2 (shiftOf num den) := Nat.two_pow_pos _
  rw [← Nat.div_div_eq_div_mul, Nat.le_div_iff_mul_le hpos]
  calc Nat.pow 2 52 * Nat.pow 2 (shiftOf num den) = 2 ^ (52 + shiftOf num den) :=
        (Nat.pow_add 2 52 _).symm
    _ ≤ num / den := hlog ▸ Nat.log2_self_le hne

/-- **Rounding keeps the order.** -/
theorem nearestBits_mono (hb : 0 < b) (hd : 0 < d) (h : a * d ≤ c * b) :
    nearestBits a b ≤ nearestBits c d := by
  rw [nearestBits_eq, nearestBits_eq]
  refine min_le_min_right _ ?_
  obtain hlt | heq := Nat.lt_or_eq_of_le (shiftOf_mono hb hd h)
  · -- the next exponent begins where this one ends, even if its last significand is rounded up
    have hbelow := significandOf_le a b
    have habove := le_significandOf (Nat.lt_of_le_of_lt (Nat.zero_le _) hlt)
    have hstep := Nat.mul_le_mul_right (Nat.pow 2 52) hlt
    rw [Nat.succ_mul] at hstep
    omega
  · rw [significandOf, significandOf, heq]
    have hpos : 0 < Nat.pow 2 (shiftOf c d) := Nat.two_pow_pos _
    refine Nat.add_le_add_left (roundDiv_mono (Nat.mul_pos hb hpos) (Nat.mul_pos hd hpos) ?_) _
    rw [← Nat.mul_assoc, ← Nat.mul_assoc]
    exact Nat.mul_le_mul_right _ h

theorem nearestBits_le (num den : Nat) : nearestBits num den ≤ infinityBits := Nat.min_le_right _ _

/-! ## Magnitudes -/

/-- The magnitude that a significand with its first bit stands for. -/
theorem magnitudeOf_normal {shift significand : Nat} (hlow : Nat.pow 2 52 ≤ significand)
    (hhigh : significand < 2 * Nat.pow 2 52) :
    magnitudeOf (shift * Nat.pow 2 52 + significand) = significand * Nat.pow 2 shift := by
  have hpos : 0 < Nat.pow 2 52 := Nat.two_pow_pos 52
  have hdiv : (shift * Nat.pow 2 52 + significand) / Nat.pow 2 52 = shift + 1 := by
    rw [Nat.add_comm, Nat.add_mul_div_right _ _ hpos, Nat.add_comm]
    congr 1
    exact Nat.div_eq_of_lt_le (by omega) (by omega)
  have hmod : (shift * Nat.pow 2 52 + significand) % Nat.pow 2 52 = significand - Nat.pow 2 52 := by
    rw [Nat.add_comm, Nat.add_mul_mod_self_right, Nat.mod_eq_sub_mod hlow]
    exact Nat.mod_eq_of_lt (by omega)
  rw [magnitudeOf, if_neg (by omega), hdiv, hmod, Nat.add_sub_cancel' hlow]
  rfl

/-- Magnitudes grow with their bits. -/
theorem magnitudeOf_mono (h : a ≤ b) : magnitudeOf a ≤ magnitudeOf b := by
  have hpos : 0 < Nat.pow 2 52 := Nat.two_pow_pos 52
  unfold magnitudeOf
  split
  · split
    · exact h
    · calc a ≤ Nat.pow 2 52 * 1 := by omega
        _ ≤ (Nat.pow 2 52 + b % Nat.pow 2 52) * Nat.pow 2 (b / Nat.pow 2 52 - 1) :=
          Nat.mul_le_mul (Nat.le_add_right _ _) (Nat.two_pow_pos _)
  · rw [if_neg (by omega)]
    obtain hlt | heq := Nat.lt_or_eq_of_le (Nat.div_le_div_right (c := Nat.pow 2 52) h)
    · have hrest : a % Nat.pow 2 52 < Nat.pow 2 52 := Nat.mod_lt _ hpos
      have hone : 1 ≤ a / Nat.pow 2 52 := (Nat.one_le_div_iff hpos).2 (by omega)
      calc (Nat.pow 2 52 + a % Nat.pow 2 52) * Nat.pow 2 (a / Nat.pow 2 52 - 1)
          ≤ Nat.pow 2 52 * 2 * Nat.pow 2 (a / Nat.pow 2 52 - 1) := Nat.mul_le_mul_right _ (by omega)
        _ = Nat.pow 2 52 * Nat.pow 2 (a / Nat.pow 2 52 - 1 + 1) := by
          rw [Nat.mul_assoc, Nat.mul_comm 2]
          rfl
        _ ≤ (Nat.pow 2 52 + b % Nat.pow 2 52) * Nat.pow 2 (b / Nat.pow 2 52 - 1) :=
          Nat.mul_le_mul (Nat.le_add_right _ _) (Nat.pow_le_pow_right (by decide) (by omega))
    · rw [heq]
      refine Nat.mul_le_mul_right _ (Nat.add_le_add_left ?_ _)
      have ha := Nat.div_add_mod a (Nat.pow 2 52)
      have hb := Nat.div_add_mod b (Nat.pow 2 52)
      rw [heq] at ha
      omega

/-- A significand of 53 bits is not rounded, wherever it is shifted. -/
theorem magnitudeOf_nearestBits {n k : Nat} (hn : n < 2 * Nat.pow 2 52) (hk : k ≤ 2000) :
    magnitudeOf (nearestBits (n * Nat.pow 2 k) 1) = n * Nat.pow 2 k := by
  have hpos : ∀ j, 0 < Nat.pow 2 j := Nat.two_pow_pos
  have hshift : shiftOf (n * Nat.pow 2 k) 1 ≤ k := by
    have hlt : n * Nat.pow 2 k < 2 ^ (53 + k) := by
      rw [Nat.pow_add]
      exact Nat.mul_lt_mul_of_pos_right hn (hpos k)
    unfold shiftOf
    rw [Nat.div_one]
    by_cases hzero : n * Nat.pow 2 k = 0
    · rw [hzero, Nat.log2_zero]
      exact Nat.zero_le k
    · have := (Nat.log2_lt hzero).2 hlt
      omega
  have hbelow := div_shiftOf_lt (n * Nat.pow 2 k) 1
  have habove := @le_significandOf (n * Nat.pow 2 k) 1
  rw [nearestBits_eq]
  rw [significandOf] at habove ⊢
  generalize shiftOf (n * Nat.pow 2 k) 1 = shift at hshift hbelow habove ⊢
  have hsplit : n * Nat.pow 2 k = n * Nat.pow 2 (k - shift) * (1 * Nat.pow 2 shift) := by
    rw [Nat.one_mul, Nat.mul_assoc]
    congr 1
    exact (Nat.pow_sub_mul_pow 2 hshift).symm
  have hone : 0 < 1 * Nat.pow 2 shift := Nat.mul_pos Nat.one_pos (hpos shift)
  rw [hsplit] at hbelow habove ⊢
  rw [Nat.mul_div_cancel _ hone] at hbelow
  rw [roundDiv_mul _ hone] at habove ⊢
  have hfinite : shift * Nat.pow 2 52 + n * Nat.pow 2 (k - shift) ≤ infinityBits :=
    calc shift * Nat.pow 2 52 + n * Nat.pow 2 (k - shift)
        ≤ 2000 * Nat.pow 2 52 + 2 * Nat.pow 2 52 :=
          Nat.add_le_add (Nat.mul_le_mul_right _ (Nat.le_trans hshift hk)) (Nat.le_of_lt hbelow)
      _ ≤ infinityBits := by decide
  rw [Nat.min_eq_left hfinite, Nat.one_mul]
  by_cases hnormal : Nat.pow 2 52 ≤ n * Nat.pow 2 (k - shift)
  · exact magnitudeOf_normal hnormal hbelow
  · obtain rfl : shift = 0 := Nat.eq_zero_of_not_pos fun h => hnormal (habove h)
    rw [magnitudeOf, if_pos (by omega), Nat.zero_mul, Nat.zero_add]
    exact (Nat.mul_one _).symm

/-! ## Numbers without a sign -/

/-- A number that is no NaN and has no sign. -/
structure Unsigned (x : Binary64) : Prop where
  sign : x.isNegative = false
  bits : x.magnitudeBits ≤ infinityBits

theorem make_toNat {n : Nat} (h : n ≤ infinityBits) : (make false n).bits.toNat = n := by
  have hlt : n < Nat.pow 2 64 := Nat.lt_of_le_of_lt h (by decide)
  simp only [make, Bool.false_eq_true, if_false, Nat.zero_add]
  exact UInt64.toNat_ofNat.trans (Nat.mod_eq_of_lt hlt)

theorem make_magnitudeBits {n : Nat} (h : n ≤ infinityBits) :
    (make false n).magnitudeBits = n := by
  rw [magnitudeBits, make_toNat h]
  exact Nat.mod_eq_of_lt (Nat.lt_of_le_of_lt h (by decide))

theorem make_unsigned {n : Nat} (h : n ≤ infinityBits) : (make false n).Unsigned where
  sign := by
    rw [isNegative, make_toNat h]
    exact decide_eq_false (Nat.not_le.2 (Nat.lt_of_le_of_lt h (by decide)))
  bits := by rwa [make_magnitudeBits h]

theorem nearest_unsigned (num den : Nat) : (nearest false num den).Unsigned :=
  make_unsigned (nearestBits_le num den)

theorem nearest_magnitudeBits (num den : Nat) :
    (nearest false num den).magnitudeBits = nearestBits num den :=
  make_magnitudeBits (nearestBits_le num den)

theorem unit_eq : ∃ k ≤ 2000, unit = Nat.pow 2 k := ⟨1074, by decide, by decide +kernel⟩

theorem unit_pos : 0 < unit := by
  obtain ⟨k, -, hunit⟩ := unit_eq
  rw [hunit]
  exact Nat.two_pow_pos k

/-- A natural number below `2 ^ 53` is a double. -/
theorem ofNat_magnitude {n : Nat} (h : n < 2 * Nat.pow 2 52) :
    (ofNat n).magnitude = n * unit := by
  obtain ⟨k, hk, hunit⟩ := unit_eq
  rw [magnitude, ofNat, ofRatio, nearest_magnitudeBits, hunit]
  exact magnitudeOf_nearestBits h hk

variable {x y x' y' : Binary64}

namespace Unsigned

theorem isNaN (h : x.Unsigned) : x.isNaN = false := decide_eq_false (Nat.not_lt.2 h.bits)

theorem rank (h : x.Unsigned) : x.rank = x.magnitudeBits := by
  simp [Binary64.rank, h.sign]

theorem orderKey (h : x.Unsigned) : x.orderKey = x.magnitudeBits := by
  simp [Binary64.orderKey, h.sign]

theorem scaled (h : x.Unsigned) : x.scaled = x.magnitude := by
  simp [Binary64.scaled, h.sign]

theorem le_iff (hx : x.Unsigned) (hy : y.Unsigned) :
    x.le y = true ↔ x.magnitudeBits ≤ y.magnitudeBits := by
  simp [le, hx.isNaN, hy.isNaN, hx.rank, hy.rank]

theorem lt_iff (hx : x.Unsigned) (hy : y.Unsigned) :
    x.lt y = true ↔ x.magnitudeBits < y.magnitudeBits := by
  simp [lt, hx.isNaN, hy.isNaN, hx.rank, hy.rank]

theorem magnitudeBits_eq (h : x.Unsigned) : x.magnitudeBits = x.bits.toNat := by
  have hsign := h.sign
  rw [isNegative, decide_eq_false_iff_not] at hsign
  exact Nat.mod_eq_of_lt (Nat.not_le.1 hsign)

theorem eq_of_magnitudeBits (hx : x.Unsigned) (hy : y.Unsigned)
    (h : x.magnitudeBits = y.magnitudeBits) : x = y := by
  rw [hx.magnitudeBits_eq, hy.magnitudeBits_eq] at h
  cases x
  cases y
  exact congrArg Binary64.mk (UInt64.toNat_inj.1 h)

theorem magnitude_le (hx : x.Unsigned) (hy : y.Unsigned) (h : x.le y = true) :
    x.magnitude ≤ y.magnitude :=
  magnitudeOf_mono ((hx.le_iff hy).1 h)

theorem add_eq (hx : x.Unsigned) (hy : y.Unsigned) :
    x.add y = nearest false (x.magnitude + y.magnitude) 1 := by
  rw [add, ofScaled, hx.scaled, hy.scaled, ← Int.natCast_add, Int.natAbs_natCast]
  congr 1

theorem mul_eq (hx : x.Unsigned) (hy : y.Unsigned) :
    x.mul y = nearest false (x.magnitude * y.magnitude) unit := by
  rw [mul, hx.sign, hy.sign]
  rfl

theorem div_eq (hx : x.Unsigned) (hy : y.Unsigned) :
    x.div y = nearest false (x.magnitude * unit) y.magnitude := by
  rw [div, hx.sign, hy.sign]
  rfl

theorem add (hx : x.Unsigned) (hy : y.Unsigned) : (x.add y).Unsigned := by
  rw [hx.add_eq hy]
  exact nearest_unsigned _ _

theorem mul (hx : x.Unsigned) (hy : y.Unsigned) : (x.mul y).Unsigned := by
  rw [hx.mul_eq hy]
  exact nearest_unsigned _ _

theorem div (hx : x.Unsigned) (hy : y.Unsigned) : (x.div y).Unsigned := by
  rw [hx.div_eq hy]
  exact nearest_unsigned _ _

/-! ## Monotone operations -/

theorem nearest_mono (hb : 0 < b) (hd : 0 < d) (h : a * d ≤ c * b) :
    (nearest false a b).le (nearest false c d) = true := by
  rw [(nearest_unsigned a b).le_iff (nearest_unsigned c d), nearest_magnitudeBits,
    nearest_magnitudeBits]
  exact nearestBits_mono hb hd h

theorem add_mono (hx : x.Unsigned) (hy : y.Unsigned) (hx' : x'.Unsigned) (hy' : y'.Unsigned)
    (hxx' : x.le x' = true) (hyy' : y.le y' = true) : (x.add y).le (x'.add y') = true := by
  rw [hx.add_eq hy, hx'.add_eq hy']
  refine nearest_mono Nat.one_pos Nat.one_pos (Nat.mul_le_mul_right 1 ?_)
  exact Nat.add_le_add (hx.magnitude_le hx' hxx') (hy.magnitude_le hy' hyy')

theorem mul_mono (hx : x.Unsigned) (hy : y.Unsigned) (hx' : x'.Unsigned) (hy' : y'.Unsigned)
    (hxx' : x.le x' = true) (hyy' : y.le y' = true) : (x.mul y).le (x'.mul y') = true := by
  rw [hx.mul_eq hy, hx'.mul_eq hy']
  refine nearest_mono unit_pos unit_pos (Nat.mul_le_mul_right unit ?_)
  exact Nat.mul_le_mul (hx.magnitude_le hx' hxx') (hy.magnitude_le hy' hyy')

/-- A quotient is compared with a ratio across. -/
theorem div_mono {p q : Nat} (hx : x.Unsigned) (hy : y.Unsigned) (hpos : 0 < y.magnitude)
    (hq : 0 < q) (h : x.magnitude * q ≤ p * y.magnitude) :
    (x.div y).le (ofRatio false p q) = true := by
  rw [hx.div_eq hy]
  refine nearest_mono hpos hq ?_
  calc x.magnitude * unit * q = x.magnitude * q * unit := Nat.mul_right_comm _ _ _
    _ ≤ p * y.magnitude * unit := Nat.mul_le_mul_right unit h
    _ = p * unit * y.magnitude := Nat.mul_right_comm _ _ _

end Unsigned

end Binary64

end Amanuensis
