import Amanuensis.Text.Blank
import Amanuensis.Text.Letter
import Amanuensis.Text.Lowercase
import Amanuensis.Text.Runs
import Mathlib.Data.List.Basic
import Mathlib.Data.List.Chain
/-!
# Letters, case and white space

How the classes of characters lie to each other. What is not alphanumeric
has no other small form (`lowerChar_eq_self`), white space is neither
alphanumeric nor cased nor looked through (`isBlank_apart`), and the two
forms of an ASCII letter behave alike in every respect that case knows of
(`lowerAscii_alike`).
-/


namespace Amanuensis

namespace Text

variable {ranges : List (Nat × Nat)} {n m : Nat} {c : Char}

/-! ## Ranges -/

/-- Every range of the list is one, and ends before the next begins. -/
def Ascending (ranges : List (Nat × Nat)) : Prop :=
  ranges.IsChain (fun a b => a.1 ≤ a.2 ∧ a.2 < b.1)

instance (ranges : List (Nat × Nat)) : Decidable (Ascending ranges) :=
  inferInstanceAs (Decidable (ranges.IsChain _))

/-- A number that is covered lies in one of the ranges. -/
theorem exists_of_covers (h : covers ranges n = true) : ∃ r ∈ ranges, r.1 ≤ n ∧ n ≤ r.2 := by
  induction ranges with
  | nil => cases h
  | cons r ranges ih =>
    simp only [covers] at h
    split at h
    · cases h
    · rw [Bool.or_eq_true, decide_eq_true_eq] at h
      obtain h | h := h
      · exact ⟨r, List.mem_cons_self, by omega, h⟩
      · obtain ⟨q, hq, hn⟩ := ih h
        exact ⟨q, List.mem_cons_of_mem _ hq, hn⟩

/-- What lies behind the first ranges is covered if the others cover it. -/
theorem covers_dropWhile (h : Ascending ranges) (hn : m ≤ n) :
    covers (ranges.dropWhile fun q => Nat.blt q.2 m) n = covers ranges n := by
  induction ranges with
  | nil => rfl
  | cons q ranges ih =>
    cases hbefore : Nat.blt q.2 m with
    | false => rw [List.dropWhile_cons, hbefore, if_neg Bool.false_ne_true]
    | true =>
      rw [List.dropWhile_cons, hbefore, if_pos rfl, ih h.tail]
      rw [Nat.blt_eq] at hbefore
      cases ranges with
      | nil => simp [covers, Nat.not_le.2 (hbefore.trans_le hn)]
      | cons r ranges =>
        have hq : q.1 ≤ q.2 := (List.isChain_cons_cons.1 h).1.1
        conv_rhs => rw [covers, if_neg (by omega), decide_eq_false (by omega), Bool.false_or]

/-- The numbers that no range covers, where numbers and ranges are passed
through side by side: as fast as a whole table asks for. -/
def missed : List (Nat × Nat) → List Nat → List Nat
  | _, [] => []
  | ranges, n :: ns =>
    match ranges.dropWhile fun q => Nat.blt q.2 n with
    | [] => n :: ns
    | q :: rest => if Nat.ble q.1 n then missed (q :: rest) ns else n :: missed (q :: rest) ns

theorem missed_eq_filter (h : Ascending ranges) {ns : List Nat} (hns : ns.Pairwise (· ≤ ·)) :
    missed ranges ns = ns.filter fun n => !covers ranges n := by
  induction ns generalizing ranges with
  | nil => rfl
  | cons n ns ih =>
    have hsame : ∀ k ∈ n :: ns, (!covers ranges k) =
        !covers (ranges.dropWhile fun q => Nat.blt q.2 n) k := by
      intro k hk
      rw [covers_dropWhile h]
      obtain rfl | hk := List.mem_cons.1 hk
      · exact Nat.le_refl _
      · exact List.rel_of_pairwise_cons hns hk
    rw [List.filter_congr hsame, missed]
    have hrest : Ascending (ranges.dropWhile fun q => Nat.blt q.2 n) :=
      h.suffix (List.dropWhile_suffix _)
    have hhead := List.head?_dropWhile_not (fun q : Nat × Nat => Nat.blt q.2 n) ranges
    generalize ranges.dropWhile (fun q => Nat.blt q.2 n) = rest at hrest hhead
    cases rest with
    | nil => exact (List.filter_eq_self.2 fun _ _ => rfl).symm
    | cons q rest =>
      have hq : ¬ q.2 < n := by
        rw [← Nat.blt_eq, (hhead : Nat.blt q.2 n = false)]
        exact Bool.false_ne_true
      simp only [ih hrest hns.tail, List.filter_cons]
      by_cases hlow : q.1 ≤ n
      · simp [covers, Nat.not_lt.2 hlow, hq, hlow]
      · simp [covers, Nat.not_le.1 hlow, hlow]

/-- A number that is moved lies in one of the runs. -/
theorem exists_of_shifted {runs : List Shift} (h : shifted? runs n = some m) :
    ∃ r ∈ runs, r.first ≤ n ∧ n ≤ r.last ∧ (n - r.first) % r.step = 0 := by
  induction runs with
  | nil => cases h
  | cons r runs ih =>
    simp only [shifted?] at h
    split at h
    · cases h
    · split at h
      · rename_i hlow hrun
        exact ⟨r, List.mem_cons_self, by omega, hrun.1, hrun.2⟩
      · obtain ⟨q, hq, hn⟩ := ih h
        exact ⟨q, List.mem_cons_of_mem _ hq, hn⟩

/-! ## Letters with a small form -/

/-- The classes that `isAlphanumeric`, `isCased` and `isCaseIgnorable` look into. -/
def letterClasses : List (List (Nat × Nat)) :=
  [letterOrNumberRanges, addedLetterRanges, otherAlphabeticRanges, casedRanges,
    caseIgnorableRanges]

theorem letterClasses_ascending : letterClasses.Forall Ascending := by decide +kernel

/-- The code points that a run moves. -/
def Shift.points (r : Shift) : List Nat :=
  (List.range ((r.last - r.first) / r.step + 1)).map fun i => r.first + r.step * i

/-- The code points with another small form. -/
def shiftedPoints : List Nat := caseShifts.flatMap Shift.points

theorem mem_shiftedPoints (h : shifted? caseShifts n = some m) : n ∈ shiftedPoints := by
  obtain ⟨r, hr, hlow, hhigh, hstep⟩ := exists_of_shifted h
  refine List.mem_flatMap.2 ⟨r, hr, List.mem_map.2 ⟨(n - r.first) / r.step, ?_, ?_⟩⟩
  · exact List.mem_range.2 (Nat.lt_succ_of_le (Nat.div_le_div_right (by omega)))
  · rw [Nat.mul_div_cancel' (Nat.dvd_of_mod_eq_zero hstep)]
    omega

/-- What has another small form is alphanumeric. -/
theorem isAlphanumeric_of_shifted (h : shifted? caseShifts c.toNat = some m) :
    isAlphanumeric c = true := by
  have hnone : missed otherAlphabeticRanges (missed addedLetterRanges
      (missed letterOrNumberRanges shiftedPoints)) = [] := by decide +kernel
  have hpoints : shiftedPoints.Pairwise (· ≤ ·) := List.isChain_iff_pairwise.1 (by decide +kernel)
  obtain ⟨hletter, hadded, hother, -⟩ := letterClasses_ascending
  rw [missed_eq_filter hletter hpoints, missed_eq_filter hadded (hpoints.filter _),
    missed_eq_filter hother ((hpoints.filter _).filter _),
    List.filter_filter, List.filter_filter, List.filter_eq_nil_iff] at hnone
  by_contra hnot
  simp only [isAlphanumeric, isLetterOrNumber, Bool.not_eq_true, Bool.or_eq_false_iff] at hnot
  obtain ⟨⟨hl, ha⟩, ho⟩ := hnot
  exact hnone c.toNat (mem_shiftedPoints h) (by rw [hl, ha, ho]; rfl)

/-- **What is not alphanumeric has no other small form.** -/
theorem lowerChar_eq_self (h : isAlphanumeric c = false) : lowerChar c = c := by
  unfold lowerChar
  cases hshift : shifted? caseShifts c.toNat with
  | none => exact Char.ofNat_toNat c
  | some m => exact absurd (isAlphanumeric_of_shifted hshift) (by rw [h]; decide)

theorem isLetterOrNumber_eq_false (h : isAlphanumeric c = false) : isLetterOrNumber c = false := by
  simp only [isAlphanumeric, Bool.or_eq_false_iff] at h
  exact h.1.1

/-! ## White space -/

/-- The code points of some ranges. -/
def pointsOf (ranges : List (Nat × Nat)) : List Nat :=
  ranges.flatMap fun r => List.range' r.1 (r.2 + 1 - r.1)

theorem mem_pointsOf (h : covers ranges n = true) : n ∈ pointsOf ranges := by
  obtain ⟨r, hr, hlow, hhigh⟩ := exists_of_covers h
  exact List.mem_flatMap.2 ⟨r, hr, List.mem_range'_1.2 ⟨hlow, by omega⟩⟩

/-- **White space** is neither alphanumeric nor cased, and case is not looked
for behind it. -/
theorem isBlank_apart (h : isBlank c = true) :
    isAlphanumeric c = false ∧ isCased c = false ∧ isCaseIgnorable c = false := by
  have hascending : (pointsOf blankRanges).Pairwise (· ≤ ·) :=
    List.isChain_iff_pairwise.1 (by decide +kernel)
  have hmissed : letterClasses.Forall fun ranges =>
      missed ranges (pointsOf blankRanges) = pointsOf blankRanges := by decide +kernel
  have hapart : letterClasses.Forall fun ranges => covers ranges c.toNat = false := by
    refine List.forall_iff_forall_mem.2 fun ranges hranges => ?_
    have hall := List.forall_iff_forall_mem.1 hmissed ranges hranges
    rw [missed_eq_filter (List.forall_iff_forall_mem.1 letterClasses_ascending ranges hranges)
      hascending, List.filter_eq_self] at hall
    simpa using hall _ (mem_pointsOf h)
  obtain ⟨hletter, hadded, hother, hcased, hignorable⟩ := hapart
  rw [isAlphanumeric, isLetterOrNumber, hletter, hadded, hother]
  exact ⟨rfl, hcased, hignorable⟩

/-! ## The letters of ASCII -/

theorem lowerAscii_of_capital (h : 'A' ≤ c ∧ c ≤ 'Z') :
    c.toNat ∈ List.range' 65 26 ∧ lowerAscii c = Char.ofNat (c.toNat + 32) := by
  have hlow : 65 ≤ c.toNat := h.1
  have hhigh : c.toNat ≤ 90 := h.2
  exact ⟨List.mem_range'_1.2 ⟨hlow, by omega⟩, if_pos h⟩

/-- **The two forms of an ASCII letter** have one small form, and both are
cased. -/
theorem lowerAscii_alike (c : Char) :
    lowerChar (lowerAscii c) = lowerChar c ∧ isCased (lowerAscii c) = isCased c ∧
      isCaseIgnorable (lowerAscii c) = isCaseIgnorable c ∧ (lowerAscii c = 'Σ' ↔ c = 'Σ') ∧
      (lowerAscii c = 'İ' ↔ c = 'İ') := by
  by_cases hcapital : 'A' ≤ c ∧ c ≤ 'Z'
  · obtain ⟨hmem, hlower⟩ := lowerAscii_of_capital hcapital
    have hletters : ∀ n ∈ List.range' 65 26,
        lowerChar (Char.ofNat (n + 32)) = lowerChar (Char.ofNat n) ∧
        isCased (Char.ofNat (n + 32)) = isCased (Char.ofNat n) ∧
        isCaseIgnorable (Char.ofNat (n + 32)) = isCaseIgnorable (Char.ofNat n) ∧
        (Char.ofNat (n + 32) = 'Σ' ↔ Char.ofNat n = 'Σ') ∧
        (Char.ofNat (n + 32) = 'İ' ↔ Char.ofNat n = 'İ') := by
      decide +kernel
    simpa [hlower] using hletters _ hmem
  · rw [lowerAscii, if_neg hcapital]
    exact ⟨rfl, rfl, rfl, Iff.rfl, Iff.rfl⟩

end Text

end Amanuensis
