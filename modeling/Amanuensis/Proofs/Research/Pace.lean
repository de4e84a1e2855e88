import Amanuensis.Proofs.Research.Budget
/-!
# The pace of a poll

A poll waits before each of its requests. If all these waits last, it makes no
more requests than time passes (`Paced`), and so gets to any instant unless it
is over before. If only the intervals of its slots do, this takes a limit to the
retries: without a delay and without a limit a slot may ask at one instant for
ever (`poll_passes`).
-/


namespace Amanuensis

namespace Research

namespace Poll

open Amanuensis.Task

/-- The waits of a poll take time: those for its intervals, and those before
repeated requests if there is no limit to these. -/
def Options.Lasting (o : Options) : Prop :=
  0 < min o.initialInterval.nanos o.maxInterval.nanos ∧
    (o.maxRetries.toNat + 1 < UInt32.size ∨ 0 < o.retryDelay.nanos)

instance (o : Options) : Decidable o.Lasting :=
  inferInstanceAs (Decidable (0 < min o.initialInterval.nanos o.maxInterval.nanos ∧
    (o.maxRetries.toNat + 1 < UInt32.size ∨ 0 < o.retryDelay.nanos)))

/-- Is the next thing that a poll does a request? -/
def Phase.asks : Phase → Bool
  | .rested .elapsed | .retried _ .elapsed => true
  | _ => false

/-- **A poll does not ask faster than time passes**: since its start there has
been an instant for each of its requests, and where it is about to ask there is
one more. -/
def Paced (t₀ : Instant) (q : Nat) (t : Instant) (s : Machine) : Prop :=
  t₀ + (q + s.2.asks.toNat) ≤ t

variable {e : Setting Event} {o : Options} {jobId : String} {t₀ t : Instant} {m₀ m : Moment}
variable {n k q begun slots : Nat} {c : Course} {s next : Machine} {turn : Turn Machine Event}
variable {effects : List (Effect Event)}

theorem Paced.le (h : Paced t₀ q t s) : t₀ + q ≤ t :=
  Nat.le_trans (Nat.add_le_add_left (Nat.le_add_right _ _) t₀) h

/-- Where a poll is not about to ask, that is all. -/
theorem paced_of_le {phase : Phase} (h : t₀ + q ≤ t) (hidle : phase.asks = false) :
    Paced t₀ q t (c, phase) := by
  rwa [Paced, hidle, Bool.toNat_false]

/-- A wait that lasts. -/
theorem lt_due {span : Nat} (hspan : 0 < span) : t < due t span := by
  have hle := add_min_le_due t span
  have hyears : 0 < thirtyYears := by decide
  unfold Instant at *
  omega

/-- The interval before a slot lasts. -/
theorem OnCourse.interval_pos (hpos : 0 < o.interval 0) (h : OnCourse o jobId t₀ k slots c) :
    0 < c.backoff.current.nanos := by
  rw [h.interval]
  exact Nat.lt_of_lt_of_le hpos (o.interval_mono (Nat.zero_le k))

/-- What a wait that lasts leads to. -/
theorem paced_of_wait {span : Nat} {now : Instant} {phase : Wake → Phase} {how : Wake}
    (h : t₀ + q ≤ now) (hspan : 0 < span) (hnow : now ≤ t)
    (hlasts : how = .elapsed → t = due now span) (hidle : (phase .cancelled).asks = false) :
    Paced t₀ q t (c, phase how) := by
  cases how with
  | cancelled => exact paced_of_le (Nat.le_trans h hnow) hidle
  | elapsed =>
    have hlt : t₀ + (q + 1) ≤ t := by
      rw [hlasts rfl]
      exact Nat.lt_of_le_of_lt h (lt_due hspan)
    have hone : q + (phase .elapsed).asks.toNat ≤ q + 1 :=
      Nat.add_le_add_left (Bool.toNat_le _) q
    exact Nat.le_trans (Nat.add_le_add_left hone t₀) hlt

/-- **A turn keeps the pace**, if all waits last. -/
theorem Paced.after_turn (hpos : 0 < o.interval 0) (hdelay : 0 < o.retryDelay.nanos)
    (hledger : Ledger o jobId t₀ begun q m.now s) (hpaced : Paced t₀ q m.now s)
    (hturn : e.turnAt (step o) m s = .ok turn) (hresume : turn.resume = some (t, next)) :
    Paced t₀ (q + (requestsOf turn.effects).length) t next := by
  have hnow : m.now ≤ t := (turn_sound hturn).le_resume _ hresume
  have hle := hpaced.le
  have hshape := step_shape o m.now (m.cancelled e.signalled) s
  rw [Setting.turnAt] at hturn
  generalize step o m.now (m.cancelled e.signalled) s = move at hshape hturn
  cases hshape with
  | settle | overdue | exhausted => cases hturn
  | begin =>
    obtain ⟨heffects, how, rfl, -, hlasts⟩ := turn_wait_resumes hturn hresume
    obtain ⟨k, slots, hcourse⟩ := hledger.onCourse
    rw [heffects]
    exact paced_of_wait hle (hcourse.interval_pos hpos) hnow hlasts rfl
  | next =>
    obtain ⟨heffects, how, rfl, -, hlasts⟩ := turn_wait_resumes hturn hresume
    obtain ⟨k, slots, hcourse⟩ := hledger.onCourse
    rw [heffects]
    exact paced_of_wait hle (hcourse.advance.interval_pos hpos) hnow hlasts rfl
  | back =>
    obtain ⟨heffects, how, rfl, -, hlasts⟩ := turn_wait_resumes hturn hresume
    rw [heffects]
    exact paced_of_wait hle hdelay hnow hlasts rfl
  | ask | again =>
    -- the wait before the request makes up for it
    obtain ⟨hone, answer, rfl⟩ := turn_ask_received hturn hresume
    have hbefore : t₀ + (q + 1) ≤ m.now := hpaced
    exact paced_of_le (Nat.le_trans (Nat.add_le_add_left (Nat.add_le_add_left hone q) t₀)
      (Nat.le_trans hbefore hnow)) rfl
  | tell | giveUp =>
    rw [turn_report] at hturn
    cases hturn
    cases hresume
    rw [requestsOf_heard]
    exact paced_of_le hle rfl

/-- And so does a run, in every setting. -/
theorem paced_of_reached (hpos : 0 < o.interval 0) (hdelay : 0 < o.retryDelay.nanos)
    (h : Reached (step o) e .free m₀ (start o jobId m₀.now) n effects m s) :
    Paced m₀.now (requestsOf effects).length m.now s := by
  induction h with
  | start => exact Nat.le_refl m₀.now
  | move h hturn _ hresume ih =>
    rw [requestsOf_append, List.length_append]
    exact ih.after_turn hpos hdelay (ledger_of_reached h) hturn hresume

/-- **A poll whose waits last gets to any instant**, or is over before. -/
theorem poll_passes (hlasting : o.Lasting) (jobId : String) (m : Moment) (b : Instant) :
    Passes (step o) e .free b m (start o jobId m.now) := by
  obtain ⟨hmin, hends⟩ := hlasting
  have hpos : 0 < o.interval 0 := by rwa [Options.interval, Nat.pow_zero, Nat.mul_one]
  obtain hlimit | hdelay := hends
  · exact (poll_finishes hpos (Nat.ne_of_lt hlimit) jobId).passes b
  · refine (step_busy o).passes b fun n effects m' s h hbefore => ?_
    have hle := (paced_of_reached hpos hdelay h).le
    unfold Instant at *
    omega

end Poll

end Research

end Amanuensis
