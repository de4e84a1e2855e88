import Amanuensis.Research.Poll
import Mathlib.Algebra.Group.Nat.Defs
/-!
# The intervals of a poll

Durations saturate, and so does the doubling of an interval. None of it
shows below the cap: `Backoff.after_new_nanos` says that the interval after
`k` advances is the first one times `2 ^ k`, multiplied without bounds, or
the cap.
-/


namespace Amanuensis

namespace Duration

@[simp] theorem ofNanos_nanos (n : Nat) : (ofNanos n).nanos = min n maxNanos := rfl

theorem nanos_le_maxNanos (d : Duration) : d.nanos ≤ maxNanos := Nat.le_pred_of_lt d.nanos_lt

@[simp] theorem least_nanos (d e : Duration) : (d.least e).nanos = min d.nanos e.nanos := by
  unfold least
  split <;> omega

/-- A span that has grown to some duration reads so too as a duration. -/
theorem le_ofNanos_iff {d : Duration} {n : Nat} : d.nanos ≤ (ofNanos n).nanos ↔ d.nanos ≤ n := by
  have hmax := d.nanos_le_maxNanos
  rw [ofNanos_nanos]
  omega

end Duration

namespace Research

/-- Doubling up to a cap does not show that durations saturate. -/
theorem nextInterval_nanos (previous cap : Duration) :
    (nextInterval previous cap).nanos = min (previous.nanos * 2) cap.nanos := by
  have hmax := cap.nanos_le_maxNanos
  simp only [nextInterval, Duration.double, Duration.least_nanos, Duration.ofNanos_nanos]
  omega

namespace Backoff

@[simp] theorem after_cap (b : Backoff) (k : Nat) : (b.after k).cap = b.cap := by
  induction k with
  | zero => rfl
  | succ k ih => exact ih

@[simp] theorem advance_after (b : Backoff) (k : Nat) : (b.after k).advance = b.after (k + 1) := rfl

/-- **The closed form of the intervals.** -/
theorem after_new_nanos (initial cap : Duration) (k : Nat) :
    ((new initial cap).after k).current.nanos = min (initial.nanos * 2 ^ k) cap.nanos := by
  induction k with
  | zero => simp [after, new]
  | succ k ih =>
    have hstep : (((new initial cap).after (k + 1)).current).nanos =
        min (((new initial cap).after k).current.nanos * 2) cap.nanos := by
      rw [after, advance, nextInterval_nanos, after_cap]
      rfl
    rw [hstep, ih, Nat.pow_succ, ← Nat.mul_assoc]
    omega

end Backoff

/-- The interval before slot `k + 1`, in nanoseconds. -/
def Poll.Options.interval (o : Poll.Options) (k : Nat) : Nat :=
  min (o.initialInterval.nanos * 2 ^ k) o.maxInterval.nanos

namespace Poll.Options

variable (o : Poll.Options)

theorem interval_le (k : Nat) : o.interval k ≤ o.maxInterval.nanos := Nat.min_le_right _ _

/-- The intervals do not shrink. -/
theorem interval_mono {j k : Nat} (h : j ≤ k) : o.interval j ≤ o.interval k := by
  have hpow : o.initialInterval.nanos * 2 ^ j ≤ o.initialInterval.nanos * 2 ^ k :=
    Nat.mul_le_mul_left _ (Nat.pow_le_pow_right (by omega) h)
  unfold interval
  omega

/-- The backoff of a poll after some slots. -/
def backoff (k : Nat) : Backoff := (Backoff.new o.initialInterval o.maxInterval).after k

@[simp] theorem backoff_nanos (k : Nat) : (o.backoff k).current.nanos = o.interval k :=
  Backoff.after_new_nanos _ _ _

@[simp] theorem backoff_advance (k : Nat) : (o.backoff k).advance = o.backoff (k + 1) := rfl

end Poll.Options

end Research

end Amanuensis
