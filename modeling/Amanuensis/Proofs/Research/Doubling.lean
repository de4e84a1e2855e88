import Amanuensis.Proofs.Research.Interval
import Mathlib.Logic.Function.Iterate
/-!
# Doubling with a carry

A duration is kept in two parts, whole seconds and the nanoseconds left, and
doubled part by part: a second that the nanoseconds fill is carried over, and
seconds that do not fit make the greatest duration. `intervals_exact` says
that the intervals of a backoff which are worked out in this way are those of
exact arithmetic, so that they never shrink, stay at the cap and arrive there
wherever they can.
-/


namespace Amanuensis

namespace Duration

/-- A duration is known by its nanoseconds. -/
theorem eq_of_nanos {d e : Duration} (h : d.nanos = e.nanos) : d = e := by
  cases d
  cases e
  simpa using h

/-- Whole seconds, and the nanoseconds left. -/
structure Parts where
  seconds : Nat
  nanos : Nat
deriving DecidableEq, Repr

/-- The parts of a duration. -/
def parts (d : Duration) : Parts := ⟨d.seconds, d.subsecond⟩

namespace Parts

/-- Twice as much, part by part. -/
def double (p : Parts) : Parts :=
  let seconds := p.seconds * 2 + p.nanos * 2 / nanosPerSecond
  if seconds < UInt64.size then ⟨seconds, p.nanos * 2 % nanosPerSecond⟩
  else ⟨UInt64.size - 1, nanosPerSecond - 1⟩

/-- The lesser parts: the seconds decide, and the nanoseconds where they are
equal. -/
def least (p q : Parts) : Parts :=
  if p.seconds < q.seconds ∨ p.seconds = q.seconds ∧ p.nanos ≤ q.nanos then p else q

end Parts

/-- The parts say how long a duration is. -/
theorem nanos_eq_parts (d : Duration) :
    d.nanos = d.parts.seconds * nanosPerSecond + d.parts.nanos := by
  have hparts := Nat.div_add_mod' d.nanos nanosPerSecond
  exact hparts.symm

/-- **Doubling carries.** -/
theorem parts_double (d : Duration) : d.double.parts = d.parts.double := by
  have hlt := d.nanos_lt
  have hsplit := d.nanos_eq_parts
  have hnanos : d.parts.nanos < nanosPerSecond := Nat.mod_lt _ (by decide)
  have hdouble : d.double.nanos = min (d.nanos * 2) maxNanos := rfl
  have hparts : d.double.parts =
      ⟨d.double.nanos / nanosPerSecond, d.double.nanos % nanosPerSecond⟩ := rfl
  simp only [maxNanos, nanosPerSecond, UInt64.size] at hlt hsplit hnanos hdouble
  unfold Parts.double
  by_cases hfits :
      d.parts.seconds * 2 + d.parts.nanos * 2 / nanosPerSecond < UInt64.size
  · rw [if_pos hfits, hparts]
    simp only [nanosPerSecond, UInt64.size] at hfits ⊢
    have hexact : d.double.nanos = d.nanos * 2 := by omega
    congr 1 <;> omega
  · rw [if_neg hfits, hparts]
    simp only [nanosPerSecond, UInt64.size] at hfits ⊢
    have hgreatest : d.double.nanos = 18446744073709551616 * 1000000000 - 1 := by omega
    congr 1 <;> omega

theorem parts_least (d e : Duration) : (d.least e).parts = d.parts.least e.parts := by
  have hiff : d.nanos ≤ e.nanos ↔ d.parts.seconds < e.parts.seconds ∨
      d.parts.seconds = e.parts.seconds ∧ d.parts.nanos ≤ e.parts.nanos := by
    simp only [parts, seconds, subsecond, nanosPerSecond]
    omega
  unfold least Parts.least
  by_cases hle : d.nanos ≤ e.nanos
  · rw [if_pos hle, if_pos (hiff.1 hle)]
  · rw [if_neg hle, if_neg (mt hiff.2 hle)]

end Duration

namespace Research

namespace Backoff

/-- The parts of an interval are worked out from the parts of the one before. -/
theorem parts_after (b : Backoff) (n : Nat) :
    (b.after n).current.parts =
      Nat.iterate (fun p => p.double.least b.cap.parts) n b.current.parts := by
  induction n with
  | zero => rfl
  | succ n ih =>
    rw [Function.iterate_succ_apply', ← ih, ← Duration.parts_double, ← after_cap b n,
      ← Duration.parts_least]
    rfl

/-- A first interval that is not zero grows up to any cap. -/
theorem exists_cap_le {n : Nat} (hn : n ≠ 0) (cap : Nat) : ∃ k, cap ≤ n * 2 ^ k := by
  have hpow : cap < 2 ^ cap := Nat.lt_two_pow_self
  have hmul : 1 * 2 ^ cap ≤ n * 2 ^ cap := Nat.mul_le_mul_right _ (by omega)
  exact ⟨cap, by omega⟩

/-- **The intervals of a backoff** are those of arithmetic without bounds.
They are worked out from their parts, never shrink and stay at the cap, which
they reach unless they are all zero and the cap is not. -/
theorem intervals_exact (initial cap : Duration) :
    let interval := fun n => ((new initial cap).after n).current
    (∀ n, (interval n).nanos = min (initial.nanos * 2 ^ n) cap.nanos) ∧
      (∀ n, (interval n).parts =
        Nat.iterate (fun p => p.double.least cap.parts) n (initial.parts.least cap.parts)) ∧
      (∀ m n, m ≤ n → (interval m).nanos ≤ (interval n).nanos) ∧
      (∀ n, (interval n).nanos ≤ cap.nanos) ∧
      (∀ m n, m ≤ n → interval m = cap → interval n = cap) ∧
      ((∃ n, interval n = cap) ↔ initial.nanos ≠ 0 ∨ cap.nanos = 0) := by
  intro interval
  have hclosed : ∀ n, (interval n).nanos = min (initial.nanos * 2 ^ n) cap.nanos := fun n =>
    after_new_nanos initial cap n
  have hcap : ∀ n, (interval n).nanos ≤ cap.nanos := fun n => by
    rw [hclosed]
    exact Nat.min_le_right _ _
  have hmono : ∀ m n, m ≤ n → (interval m).nanos ≤ (interval n).nanos := by
    intro m n hmn
    have hpow : initial.nanos * 2 ^ m ≤ initial.nanos * 2 ^ n :=
      Nat.mul_le_mul_left _ (Nat.pow_le_pow_right (by decide) hmn)
    rw [hclosed, hclosed]
    omega
  refine ⟨hclosed, fun n => ?_, hmono, hcap, fun m n hmn hm => ?_, ?_, ?_⟩
  · rw [← Duration.parts_least]
    exact parts_after _ n
  · have hle := hmono m n hmn
    rw [hm] at hle
    exact Duration.eq_of_nanos (Nat.le_antisymm (hcap n) hle)
  · rintro ⟨n, hn⟩
    by_contra hzero
    have hlast : (interval n).nanos = cap.nanos := congrArg Duration.nanos hn
    have hinitial : initial.nanos = 0 := by omega
    rw [hclosed, hinitial, Nat.zero_mul] at hlast
    omega
  · intro hreach
    obtain ⟨n, hn⟩ : ∃ n, cap.nanos ≤ initial.nanos * 2 ^ n := by
      by_cases hinitial : initial.nanos = 0
      · exact ⟨0, by omega⟩
      · exact exists_cap_le hinitial cap.nanos
    exact ⟨n, Duration.eq_of_nanos (by rw [hclosed]; omega)⟩

end Backoff

end Research

end Amanuensis
