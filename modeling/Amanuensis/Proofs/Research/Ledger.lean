import Amanuensis.Proofs.Research.Counts
import Amanuensis.Proofs.Research.Moves
import Amanuensis.Proofs.Task.Latency
import Mathlib.Algebra.BigOperators.Group.Finset.Basic
import Mathlib.Data.Nat.Count
/-!
# What a poll has spent

An account of the time and the requests that a poll has used up, in whatever
setting and however its signal is cancelled. `Ledger` has one case for each
phase: a slot has begun in the budget, the intervals of all slots so far have
been waited for, and no slot has made more requests than it may, if there is a
limit to them. A turn of the machine keeps the account (`Ledger.after_turn`),
and so does a run (`ledger_of_reached`), in which the slots that have begun are
counted (`slotsBefore`).
-/


namespace Amanuensis

namespace Research

namespace Poll

open Amanuensis.Task

/-- The instants that the clock has to tell for the intervals of a poll. -/
def Options.lastInterval (o : Options) (t₀ : Instant) : Instant :=
  t₀ + (o.maxDuration.nanos + o.maxInterval.nanos)

/-- The first `k` intervals together, as long as they last at least. -/
def Options.spent (o : Options) (t₀ : Instant) (k : Nat) : Nat :=
  ∑ j ∈ Finset.range k, atLeast (o.lastInterval t₀) (o.interval j)

/-- The course of a poll that began at some instant, has backed off so many
times and has made requests in so many slots. -/
structure OnCourse (o : Options) (jobId : String) (t₀ : Instant) (k slots : Nat) (c : Course) :
    Prop where
  job : c.jobId = jobId
  start : c.startedAt = t₀
  backoff : c.backoff = o.backoff k
  count : c.count = .ofNat slots

/-- **The account of a poll**: how many slots it has begun and how many requests
it has made by some instant at which its machine is in some state. -/
inductive Ledger (o : Options) (jobId : String) (t₀ : Instant) :
    (begun requests : Nat) → Instant → Machine → Prop
  | begin {c} : OnCourse o jobId t₀ 0 0 c → Ledger o jobId t₀ 0 0 t₀ (c, .begin)
  | rested {k q t c how} : OnCourse o jobId t₀ k k c → o.spent t₀ k < o.maxDuration.nanos →
      (how = .elapsed → t₀ + o.spent t₀ (k + 1) ≤ t) →
      (¬ o.Unlimited → q ≤ (o.maxRetries.toNat + 1) * k) →
      Ledger o jobId t₀ (k + 1) q t (c, .rested how)
  | answered {k f q t c answer} : OnCourse o jobId t₀ k (k + 1) c →
      o.spent t₀ k < o.maxDuration.nanos → t₀ + o.spent t₀ (k + 1) ≤ t → o.Allows f →
      (¬ o.Unlimited → q ≤ (o.maxRetries.toNat + 1) * k + (f + 1)) →
      Ledger o jobId t₀ (k + 1) q t (c, .answered (.ofNat f) answer)
  | retried {k f q t c how} : OnCourse o jobId t₀ k (k + 1) c →
      o.spent t₀ k < o.maxDuration.nanos → t₀ + o.spent t₀ (k + 1) ≤ t → o.Allows f →
      (¬ o.Unlimited → q ≤ (o.maxRetries.toNat + 1) * k + f) →
      Ledger o jobId t₀ (k + 1) q t (c, .retried (.ofNat f) how)
  | reported {k q t c state} : OnCourse o jobId t₀ k (k + 1) c →
      o.spent t₀ k < o.maxDuration.nanos → t₀ + o.spent t₀ (k + 1) ≤ t →
      (¬ o.Unlimited → q ≤ (o.maxRetries.toNat + 1) * (k + 1)) →
      Ledger o jobId t₀ (k + 1) q t (c, .reported state)
  | exhausted {k attempts q t c message} : OnCourse o jobId t₀ k (k + 1) c →
      o.spent t₀ k < o.maxDuration.nanos →
      (¬ o.Unlimited → q ≤ (o.maxRetries.toNat + 1) * (k + 1)) →
      Ledger o jobId t₀ (k + 1) q t (c, .exhausted (exhaustion c.jobId attempts message))

/-- Is it the move that begins a slot, the wait before its first request? -/
def beginsSlot : Move → Bool
  | .wait _ _ next =>
    match next .elapsed with
    | (_, .rested _) => true
    | _ => false
  | _ => false

variable {e : Setting Event} {o : Options} {jobId : String} {t₀ t : Instant} {m₀ m : Moment}
variable {n k q begun slots : Nat} {c : Course} {s next : Machine} {turn : Turn Machine Event}
variable {effects : List (Effect Event)}

/-- The budget is what the machine looks at. -/
theorem OnCourse.elapsed_lt_iff (h : OnCourse o jobId t₀ k slots c) :
    (c.elapsed t).nanos < o.maxDuration.nanos ↔ t - t₀ < o.maxDuration.nanos := by
  have hiff : o.maxDuration.nanos ≤ (c.elapsed t).nanos ↔ o.maxDuration.nanos ≤ t - t₀ := by
    rw [← h.start]
    exact Duration.le_ofNanos_iff
  rw [← Nat.not_le, hiff, Nat.not_le]

/-- The interval that a slot waits for. -/
theorem OnCourse.interval (h : OnCourse o jobId t₀ k slots c) :
    c.backoff.current.nanos = o.interval k := by
  rw [h.backoff, Options.backoff_nanos]

/-- The course of a slot that asks. -/
theorem OnCourse.asking (h : OnCourse o jobId t₀ k slots c) :
    OnCourse o jobId t₀ k (slots + 1) { c with count := c.count + 1 } :=
  ⟨h.job, h.start, h.backoff, by rw [h.count, count_succ]⟩

/-- The course of the next slot. -/
theorem OnCourse.advance (h : OnCourse o jobId t₀ k slots c) :
    OnCourse o jobId t₀ (k + 1) slots { c with backoff := c.backoff.advance } :=
  ⟨h.job, h.start, by rw [h.backoff, Options.backoff_advance], h.count⟩

/-- Every course that is accounted for is one of the poll. -/
theorem Ledger.onCourse {phase : Phase} (h : Ledger o jobId t₀ begun q t (c, phase)) :
    ∃ k slots, OnCourse o jobId t₀ k slots c := by
  cases h with
  | begin hcourse => exact ⟨_, _, hcourse⟩
  | rested hcourse => exact ⟨_, _, hcourse⟩
  | answered hcourse => exact ⟨_, _, hcourse⟩
  | retried hcourse => exact ⟨_, _, hcourse⟩
  | reported hcourse => exact ⟨_, _, hcourse⟩
  | exhausted hcourse => exact ⟨_, _, hcourse⟩

/-- **A slot that begins in the budget**: it is paid for, and has spent its
interval when it asks. -/
theorem Ledger.of_begun {now : Instant} {how : Wake} (hcourse : OnCourse o jobId t₀ k k c)
    (hspent : t₀ + o.spent t₀ k ≤ now) (hbudget : now - t₀ < o.maxDuration.nanos)
    (hq : ¬ o.Unlimited → q ≤ (o.maxRetries.toNat + 1) * k)
    (hlasts : how = .elapsed → t = due now c.backoff.current.nanos) :
    Ledger o jobId t₀ (k + 1) q t (c, .rested how) := by
  refine .rested hcourse ?_ (fun hhow => ?_) hq
  · unfold Instant at *
    omega
  · have hle := o.interval_le k
    have hlast : now + o.interval k < o.lastInterval t₀ := by
      unfold Options.lastInterval
      unfold Instant at *
      omega
    have hdue := add_atLeast_le_due hlast
    rw [hlasts hhow, hcourse.interval, Options.spent, Finset.sum_range_succ, ← Options.spent]
    unfold Instant at *
    omega

/-- A slot that is over has made as many requests as it may at most. -/
theorem slot_over {f : Nat} (hf : o.Allows f)
    (hq : ¬ o.Unlimited → q ≤ (o.maxRetries.toNat + 1) * k + (f + 1)) (hlimited : ¬ o.Unlimited) :
    q ≤ (o.maxRetries.toNat + 1) * (k + 1) := by
  rw [Nat.mul_succ]
  exact Nat.le_trans (hq hlimited) (Nat.add_le_add_left (Nat.succ_le_succ (hf.le hlimited)) _)

/-- **A turn keeps the account.** -/
theorem Ledger.after_turn (hledger : Ledger o jobId t₀ begun q m.now s)
    (hturn : e.turnAt (step o) m s = .ok turn) (hresume : turn.resume = some (t, next)) :
    Ledger o jobId t₀ (begun + (beginsSlot (step o m.now (m.cancelled e.signalled) s)).toNat)
      (q + (requestsOf turn.effects).length) t next := by
  have hnow : m.now ≤ t := (turn_sound hturn).le_resume _ hresume
  have hshape := step_shape o m.now (m.cancelled e.signalled) s
  rw [Setting.turnAt] at hturn
  generalize step o m.now (m.cancelled e.signalled) s = move at hshape hturn ⊢
  cases hshape with
  | settle | overdue | exhausted => cases hturn
  | begin hbudget =>
    obtain ⟨heffects, how, rfl, -, hlasts⟩ := turn_wait_resumes hturn hresume
    rw [heffects]
    -- the account of the first phase fixes the instant
    generalize m.now = now at hledger hbudget hlasts
    cases hledger with
    | begin hcourse =>
      exact .of_begun hcourse (Nat.le_refl _) (hcourse.elapsed_lt_iff.1 hbudget)
        (fun _ => Nat.zero_le _) hlasts
  | next hbudget =>
    obtain ⟨heffects, how, rfl, -, hlasts⟩ := turn_wait_resumes hturn hresume
    rw [heffects]
    cases hledger with
    | reported hcourse _ hspent hq =>
      exact .of_begun hcourse.advance hspent (hcourse.elapsed_lt_iff.1 hbudget) hq hlasts
  | ask =>
    obtain ⟨hone, answer, rfl⟩ := turn_ask_received hturn hresume
    cases hledger with
    | rested hcourse hbegun hspent hq =>
      exact .answered (f := 0) hcourse.asking hbegun (Nat.le_trans (hspent rfl) hnow) o.allows_zero
        fun hlimited => Nat.add_le_add (hq hlimited) hone
  | again =>
    obtain ⟨hone, answer, rfl⟩ := turn_ask_received hturn hresume
    cases hledger with
    | retried hcourse hbegun hspent hf hq =>
      refine .answered hcourse hbegun (Nat.le_trans hspent hnow) hf fun hlimited => ?_
      rw [← Nat.add_assoc]
      exact Nat.add_le_add (hq hlimited) hone
  | tell =>
    rw [turn_report] at hturn
    cases hturn
    cases hresume
    rw [requestsOf_heard]
    cases hledger with
    | answered hcourse hbegun hspent hf hq =>
      exact .reported ⟨hcourse.job, hcourse.start, hcourse.backoff, hcourse.count⟩ hbegun hspent
        (slot_over hf hq)
  | back hmay =>
    obtain ⟨heffects, how, rfl, -⟩ := turn_wait_resumes hturn hresume
    rw [heffects]
    cases hledger with
    | @answered _ f _ _ _ _ hcourse hbegun hspent hf hq =>
      rw [count_succ] at hmay ⊢
      have hrepeats : o.Repeats f :=
        Decidable.by_contra fun hlast => hmay ((Options.lt_count_iff hf).2 hlast)
      exact .retried hcourse hbegun (Nat.le_trans hspent hnow) hrepeats.allows hq
  | giveUp =>
    rw [turn_report] at hturn
    cases hturn
    cases hresume
    rw [requestsOf_heard]
    cases hledger with
    | answered hcourse hbegun hspent hf hq =>
      exact .exhausted hcourse hbegun (slot_over hf hq)

/-! ## The slots of a run -/

/-- A slot of a run begins at an instant, with the move after so many others. -/
def SlotBegins (e : Setting Event) (o : Options) (jobId : String) (m : Moment) (n : Nat)
    (t : Instant) : Prop :=
  ∃ effects m' s, Reached (step o) e .free m (start o jobId m.now) n effects m' s ∧ m'.now = t ∧
    beginsSlot (step o t (m'.cancelled e.signalled) s) = true

open Classical in
/-- How many slots have begun before so many moves of a run. -/
noncomputable def slotsBefore (e : Setting Event) (o : Options) (jobId : String) (m : Moment)
    (n : Nat) : Nat :=
  Nat.count (fun i => ∃ t, SlotBegins e o jobId m i t) n

/-- A place is reached in one way only, so the move there tells whether a slot
begins. -/
theorem slotsBefore_succ
    (h : Reached (step o) e .free m₀ (start o jobId m₀.now) n effects m s) :
    slotsBefore e o jobId m₀ (n + 1) = slotsBefore e o jobId m₀ n +
      (beginsSlot (step o m.now (m.cancelled e.signalled) s)).toNat := by
  have hiff : (∃ t, SlotBegins e o jobId m₀ n t) ↔
      beginsSlot (step o m.now (m.cancelled e.signalled) s) = true := by
    constructor
    · rintro ⟨_, effects', m', s', h', rfl, hbegins⟩
      obtain ⟨-, rfl, rfl⟩ := h.unique h'
      exact hbegins
    · exact fun hbegins => ⟨m.now, effects, m, s, h, rfl, hbegins⟩
  rw [slotsBefore, Nat.count_succ, ← slotsBefore]
  cases hbegins : beginsSlot (step o m.now (m.cancelled e.signalled) s) with
  | true => rw [if_pos (hiff.2 hbegins), Bool.toNat_true]
  | false =>
    rw [if_neg fun hslot => Bool.false_ne_true (hbegins.symm.trans (hiff.1 hslot)),
      Bool.toNat_false]

/-- **And a run keeps it**, in every setting. -/
theorem ledger_of_reached
    (h : Reached (step o) e .free m₀ (start o jobId m₀.now) n effects m s) :
    Ledger o jobId m₀.now (slotsBefore e o jobId m₀ n) (requestsOf effects).length m.now s := by
  induction h with
  | start =>
    rw [slotsBefore, Nat.count_zero]
    exact .begin ⟨rfl, rfl, rfl, rfl⟩
  | move h hturn _ hresume ih =>
    rw [requestsOf_append, List.length_append, slotsBefore_succ h]
    exact ih.after_turn hturn hresume

end Poll

end Research

end Amanuensis
