import Amanuensis.Proofs.Research.Ledger
import Amanuensis.Proofs.Research.Outcome
import Mathlib.Algebra.Order.BigOperators.Group.Finset
import Mathlib.Data.Set.Card
/-!
# The time budget of a poll

A slot is begun within the budget only, and not before the intervals of the
slots before it have passed; so a poll whose intervals are positive begins
`Options.slots` of them at most. If every request is answered within some
time, `Timely` bounds how late the poll can be, phase by phase, and the poll
returns (`poll_budget`).

All this counts a wait as long as the clock makes it last. Within the reach
of the clock that is as long as it is; beyond it, a poll may begin a slot
before the intervals of the others are over, and one whose retries are as many
as can be counted may never return (`budget_beyond_reach`).
-/


namespace Amanuensis

namespace Research

namespace Poll

open Amanuensis.Task

variable {e : Setting Event} {o : Options} {jobId : String} {t₀ t : Instant} {m₀ m : Moment}
variable {n k q begun latency : Nat} {c : Course} {s next : Machine} {turn : Turn Machine Event}
variable {effects : List (Effect Event)}

/-! ## The number of slots -/

/-- How many slots a poll has the budget for. -/
noncomputable def Options.slots (o : Options) (t₀ : Instant) : Nat :=
  {k | o.spent t₀ k < o.maxDuration.nanos}.ncard

theorem spent_mono {j k : Nat} (h : j ≤ k) : o.spent t₀ j ≤ o.spent t₀ k :=
  Finset.sum_le_sum_of_subset (Finset.range_mono h)

/-- Every slot costs something. -/
theorem le_spent (hpos : 0 < o.interval 0) (k : Nat) : k ≤ o.spent t₀ k := by
  induction k with
  | zero => exact Nat.zero_le _
  | succ k ih =>
    have hone : 0 < atLeast (o.lastInterval t₀) (o.interval k) :=
      atLeast_pos (Nat.lt_of_lt_of_le hpos (o.interval_mono (Nat.zero_le k)))
    rw [Options.spent, Finset.sum_range_succ, ← Options.spent]
    omega

/-- **A slot that is begun is one of them.** -/
theorem succ_le_slots (hpos : 0 < o.interval 0) (h : o.spent t₀ k < o.maxDuration.nanos) :
    k + 1 ≤ o.slots t₀ := by
  have hfinite : {k | o.spent t₀ k < o.maxDuration.nanos}.Finite :=
    (Set.finite_lt_nat o.maxDuration.nanos).subset fun j hj =>
      Nat.lt_of_le_of_lt (le_spent hpos j) hj
  -- the slots before it are paid for as well
  have hsubset : (↑(Finset.range (k + 1)) : Set Nat) ⊆
      {k | o.spent t₀ k < o.maxDuration.nanos} := by
    intro j hj
    rw [Finset.mem_coe, Finset.mem_range] at hj
    exact Nat.lt_of_le_of_lt (spent_mono (Nat.le_of_lt_succ hj)) h
  have hcard := Set.ncard_le_ncard hsubset hfinite
  rwa [Set.ncard_coe_finset, Finset.card_range] at hcard

/-- The requests of a poll are those of the slots that it has the budget
for. -/
theorem Ledger.requests_le (hpos : 0 < o.interval 0) (hlimited : ¬ o.Unlimited)
    (h : Ledger o jobId t₀ begun q t s) : q ≤ (o.maxRetries.toNat + 1) * o.slots t₀ := by
  have hslot : ∀ {k}, o.spent t₀ k < o.maxDuration.nanos →
      (o.maxRetries.toNat + 1) * (k + 1) ≤ (o.maxRetries.toNat + 1) * o.slots t₀ := fun hbegun =>
    Nat.mul_le_mul_left _ (succ_le_slots hpos hbegun)
  cases h with
  | begin => exact Nat.zero_le _
  | rested _ hbegun _ hq =>
    exact Nat.le_trans (hq hlimited)
      (Nat.le_trans (Nat.mul_le_mul_left _ (Nat.le_succ _)) (hslot hbegun))
  | answered _ hbegun _ hf hq => exact Nat.le_trans (slot_over hf hq hlimited) (hslot hbegun)
  | retried _ hbegun _ hf hq =>
    exact Nat.le_trans (slot_over hf (fun h => Nat.le_succ_of_le (hq h)) hlimited) (hslot hbegun)
  | reported _ hbegun _ hq => exact Nat.le_trans (hq hlimited) (hslot hbegun)
  | exhausted _ hbegun hq => exact Nat.le_trans (hq hlimited) (hslot hbegun)

/-! ## How late it can get -/

/-- Every request for the state of a job is answered within some time. -/
def AnswersWithin (client : Client) (jobId : String) (latency : Nat) : Prop :=
  ∀ tally, ∃ told, (client.reply tally (.status jobId)).told = some told ∧ told.1 ≤ latency

/-- The instants that the clock has to tell for a poll whose requests are
answered within some time. -/
def Options.lastAnswer (o : Options) (latency : Nat) (t₀ : Instant) : Instant :=
  t₀ + (o.maxDuration.nanos + o.maxInterval.nanos + (o.maxRetries.toNat + 1) * latency +
    o.maxRetries.toNat * o.retryDelay.nanos)

/-- By how long after its start a poll has made a request, after some failed
ones of the same slot: the slot begins in the budget, and waits for an
interval, and for every failed request and its repetition. -/
def Options.latest (o : Options) (latency : Nat) (t₀ : Instant) (failures : Nat) : Nat :=
  o.maxDuration.nanos + atMost (o.lastAnswer latency t₀) o.maxInterval.nanos +
    failures * (atMost (o.lastAnswer latency t₀) latency +
      atMost (o.lastAnswer latency t₀) o.retryDelay.nanos)

/-- **No phase is later than that**, where there is a limit to the failures of
a slot. -/
def Timely (o : Options) (latency : Nat) (t₀ t : Instant) (s : Machine) : Prop :=
  match s.2 with
  | .begin => t = t₀
  | .rested _ => t < t₀ + o.latest latency t₀ 0
  | .answered failures _ => failures.toNat ≤ o.maxRetries.toNat ∧
      t < t₀ + o.latest latency t₀ failures.toNat + atMost (o.lastAnswer latency t₀) latency
  | .retried failures _ => failures.toNat ≤ o.maxRetries.toNat ∧
      t < t₀ + o.latest latency t₀ failures.toNat
  | .reported _ | .exhausted _ =>
      t < t₀ + o.latest latency t₀ o.maxRetries.toNat + atMost (o.lastAnswer latency t₀) latency

theorem latest_mono {f g : Nat} (h : f ≤ g) :
    o.latest latency t₀ f ≤ o.latest latency t₀ g :=
  Nat.add_le_add_left (Nat.mul_le_mul_right _ h) _

theorem latest_succ (f : Nat) :
    o.latest latency t₀ (f + 1) = o.latest latency t₀ f +
      atMost (o.lastAnswer latency t₀) latency +
      atMost (o.lastAnswer latency t₀) o.retryDelay.nanos := by
  simp only [Options.latest, Nat.succ_mul]
  omega

/-- Within the reach of the clock all of this is what it says. -/
theorem latest_of_le (hlast : o.lastAnswer latency t₀ ≤ clockReach) (f : Nat) :
    o.latest latency t₀ f =
      o.maxDuration.nanos + o.maxInterval.nanos + f * (latency + o.retryDelay.nanos) := by
  simp only [Options.latest, atMost, if_pos hlast]

/-- And no request is made after the last instant. -/
theorem latest_add_le (hlast : o.lastAnswer latency t₀ ≤ clockReach) {f : Nat}
    (hf : f ≤ o.maxRetries.toNat) :
    t₀ + (o.latest latency t₀ f + latency) ≤ o.lastAnswer latency t₀ := by
  have hle := Nat.mul_le_mul_right (latency + o.retryDelay.nanos) hf
  rw [latest_of_le hlast, Options.lastAnswer]
  refine Nat.add_le_add_left ?_ t₀
  rw [Nat.succ_mul]
  rw [Nat.mul_add, Nat.mul_add] at hle
  rw [Nat.mul_add]
  omega

/-- The first request of a slot. -/
theorem begun_lt {now : Instant} {slots : Nat} (hcourse : OnCourse o jobId t₀ k slots c)
    (hbudget : now - t₀ < o.maxDuration.nanos) :
    due now c.backoff.current.nanos < t₀ + o.latest latency t₀ 0 := by
  have hle := o.interval_le k
  have hdue : due now (o.interval k) ≤ now + atMost (o.lastAnswer latency t₀) (o.interval k) := by
    refine due_le_add_atMost fun _ => ?_
    unfold Options.lastAnswer
    unfold Instant at *
    omega
  have hmost : atMost (o.lastAnswer latency t₀) (o.interval k) ≤
      atMost (o.lastAnswer latency t₀) o.maxInterval.nanos := atMost_mono hle
  rw [hcourse.interval, Options.latest, Nat.zero_mul]
  unfold Instant at *
  omega

/-- The answer to a request. -/
theorem answered_lt {now : Instant} {f delay : Nat} (hf : f ≤ o.maxRetries.toNat)
    (h : now < t₀ + o.latest latency t₀ f) (hdelay : delay ≤ latency) :
    due now delay < t₀ + o.latest latency t₀ f + atMost (o.lastAnswer latency t₀) latency := by
  have hdue : due now delay ≤ now + atMost (o.lastAnswer latency t₀) delay := by
    refine due_le_add_atMost fun hlast => ?_
    have hle := latest_add_le hlast hf
    unfold Instant at *
    omega
  have hmost : atMost (o.lastAnswer latency t₀) delay ≤ atMost (o.lastAnswer latency t₀) latency :=
    atMost_mono hdelay
  unfold Instant at *
  omega

/-- The repetition of one that has failed. -/
theorem repeated_lt {now : Instant} {f : Nat} (hf : f < o.maxRetries.toNat)
    (h : now < t₀ + o.latest latency t₀ f + atMost (o.lastAnswer latency t₀) latency) :
    due now o.retryDelay.nanos < t₀ + o.latest latency t₀ (f + 1) := by
  have hdue : due now o.retryDelay.nanos ≤
      now + atMost (o.lastAnswer latency t₀) o.retryDelay.nanos := by
    refine due_le_add_atMost fun hlast => ?_
    -- within the reach of the clock this wait ends before the last answer
    have hle := latest_add_le hlast hf
    simp only [latest_succ, atMost, if_pos hlast] at h hle
    unfold Instant at *
    omega
  rw [latest_succ]
  unfold Instant at *
  omega

/-- What a slot is told or gives up with. -/
theorem over_lt {now : Instant} {f : Nat} (hf : f ≤ o.maxRetries.toNat)
    (h : now < t₀ + o.latest latency t₀ f + atMost (o.lastAnswer latency t₀) latency) :
    now < t₀ + o.latest latency t₀ o.maxRetries.toNat +
      atMost (o.lastAnswer latency t₀) latency := by
  have hle : o.latest latency t₀ f ≤ o.latest latency t₀ o.maxRetries.toNat := latest_mono hf
  unfold Instant at *
  omega

/-- A request is over within the latency. -/
theorem ask_in_time {f : UInt32} (hjob : c.jobId = jobId)
    (hanswers : AnswersWithin e.client jobId latency)
    (hturn : e.turn m (askState c f) = .ok turn) (hresume : turn.resume = some (t, next)) :
    ∃ delay answer, delay ≤ latency ∧ t ≤ due m.now delay ∧ next = (c, .answered f answer) := by
  subst hjob
  obtain ⟨told, htold, hdelay⟩ := hanswers m.tally
  obtain ⟨-, answer, rfl⟩ := turn_ask_received hturn hresume
  exact ⟨told.1, answer, hdelay, turn_ask_le hturn htold hresume, rfl⟩

/-- **A turn is no later than the phases allow.** -/
theorem Timely.after_turn (hlimited : ¬ o.Unlimited) (htimely : Timely o latency t₀ m.now s)
    (hledger : Ledger o jobId t₀ begun q m.now s) (hanswers : AnswersWithin e.client jobId latency)
    (hturn : e.turnAt (step o) m s = .ok turn) (hresume : turn.resume = some (t, next)) :
    Timely o latency t₀ t next := by
  have hshape := step_shape o m.now (m.cancelled e.signalled) s
  rw [Setting.turnAt] at hturn
  generalize step o m.now (m.cancelled e.signalled) s = move at hshape hturn
  cases hshape with
  | settle | overdue | exhausted => cases hturn
  | begin hbudget =>
    obtain ⟨-, how, rfl, hle, -⟩ := turn_wait_resumes hturn hresume
    generalize m.now = now at hledger hbudget hle
    cases hledger with
    | begin hcourse =>
      exact Nat.lt_of_le_of_lt hle (begun_lt hcourse (hcourse.elapsed_lt_iff.1 hbudget))
  | next hbudget =>
    obtain ⟨-, how, rfl, hle, -⟩ := turn_wait_resumes hturn hresume
    cases hledger with
    | reported hcourse =>
      exact Nat.lt_of_le_of_lt hle
        (begun_lt hcourse.advance (hcourse.elapsed_lt_iff.1 hbudget))
  | @ask c =>
    cases hledger with
    | rested hcourse =>
      obtain ⟨delay, answer, hdelay, hle, rfl⟩ :=
        ask_in_time (c := { c with count := c.count + 1 }) hcourse.job hanswers hturn hresume
      exact ⟨Nat.zero_le _, Nat.lt_of_le_of_lt hle (answered_lt (Nat.zero_le _) htimely hdelay)⟩
  | again =>
    obtain ⟨hf, hlt⟩ := htimely
    cases hledger with
    | retried hcourse =>
      obtain ⟨delay, answer, hdelay, hle, rfl⟩ := ask_in_time hcourse.job hanswers hturn hresume
      exact ⟨hf, Nat.lt_of_le_of_lt hle (answered_lt hf hlt hdelay)⟩
  | tell =>
    obtain ⟨hf, hlt⟩ := htimely
    rw [turn_report] at hturn
    cases hturn
    cases hresume
    exact over_lt hf hlt
  | back hmay =>
    obtain ⟨hf, hlt⟩ := htimely
    obtain ⟨-, how, rfl, hle, -⟩ := turn_wait_resumes hturn hresume
    have hrepeats := (Options.not_lt_succ_iff (.inr hf)).1 hmay
    have hmore := hrepeats.allows.le hlimited
    have hcount := hrepeats.toNat_succ hlimited
    refine ⟨Nat.le_trans (Nat.le_of_eq hcount) hmore, ?_⟩
    rw [hcount]
    exact Nat.lt_of_le_of_lt hle (repeated_lt hmore hlt)
  | giveUp =>
    obtain ⟨hf, hlt⟩ := htimely
    rw [turn_report] at hturn
    cases hturn
    cases hresume
    exact over_lt hf hlt

/-- And so is a run, in every setting. -/
theorem timely_of_reached (hlimited : ¬ o.Unlimited)
    (hanswers : AnswersWithin e.client jobId latency)
    (h : Reached (step o) e .free m₀ (start o jobId m₀.now) n effects m s) :
    Timely o latency m₀.now m.now s := by
  induction h with
  | start => exact (rfl : m₀.now = m₀.now)
  | move h hturn _ hresume ih =>
    exact ih.after_turn hlimited (ledger_of_reached h) hanswers hturn hresume

/-- No phase is later than the last one. -/
theorem Timely.lt (hpos : 0 < o.interval 0) (h : Timely o latency t₀ t s) :
    t < t₀ + o.latest latency t₀ o.maxRetries.toNat + atMost (o.lastAnswer latency t₀) latency := by
  -- a positive interval makes the bounds strict from the start
  have hfirst : 0 < o.latest latency t₀ 0 := by
    have hinterval := o.interval_le 0
    have hmost := le_atMost (o.lastAnswer latency t₀) o.maxInterval.nanos
    rw [Options.latest]
    omega
  have hmono : ∀ {f}, f ≤ o.maxRetries.toNat →
      o.latest latency t₀ f ≤ o.latest latency t₀ o.maxRetries.toNat := latest_mono
  have hzero := hmono (Nat.zero_le _)
  obtain ⟨c, phase⟩ := s
  cases phase with
  | begin =>
    have hstart : t = t₀ := h
    unfold Instant at *
    omega
  | rested how =>
    have hlt : t < t₀ + o.latest latency t₀ 0 := h
    unfold Instant at *
    omega
  | answered f answer => exact over_lt h.1 h.2
  | retried f how =>
    obtain ⟨hf, hlt⟩ := h
    have hle := hmono hf
    unfold Instant at *
    omega
  | reported state => exact h
  | exhausted failure => exact h

/-! ## What the budget allows -/

/-- **A slot begins within the budget**, and after the intervals of the slots
before it. -/
theorem begins_in_budget {cancelled : Bool} (hledger : Ledger o jobId t₀ begun q t s)
    (hbegins : beginsSlot (step o t cancelled s) = true) :
    t - t₀ < o.maxDuration.nanos ∧ o.spent t₀ begun ≤ t - t₀ := by
  have hshape := step_shape o t cancelled s
  generalize step o t cancelled s = move at hshape hbegins
  cases hshape with
  | settle | overdue | exhausted | ask | again | tell | giveUp | back => cases hbegins
  | begin hbudget =>
    cases hledger with
    | begin hcourse => exact ⟨hcourse.elapsed_lt_iff.1 hbudget, Nat.zero_le _⟩
  | next hbudget =>
    cases hledger with
    | reported hcourse _ hspent =>
      exact ⟨hcourse.elapsed_lt_iff.1 hbudget, Nat.le_sub_of_add_le' hspent⟩

/-- **Only a poll that has used up its budget times out.** -/
theorem timeout_of_settle {failure : Failure} {cancelled : Bool}
    (hledger : Ledger o jobId t₀ begun q t s)
    (hmove : step o t cancelled s = .settle (.error failure))
    (hkind : failure.kind = .pollingTimeout) :
    (∃ count, failure = .pollingTimeout (.ofNanos (t - t₀)) count) ∧
      o.maxDuration.nanos ≤ t - t₀ := by
  have hshape := step_shape o t cancelled s
  rw [hmove] at hshape
  generalize hresult : Except.error failure = result at hshape
  cases hshape with
  | settle huntimed => exact absurd hkind (huntimed _ hresult.symm)
  | exhausted =>
    cases hresult
    cases hledger
    cases hkind
  | @overdue c phase hover =>
    obtain ⟨k, slots, hcourse⟩ := hledger.onCourse
    have hover' : ¬ t - t₀ < o.maxDuration.nanos := fun hlt =>
      Nat.not_lt.2 hover (hcourse.elapsed_lt_iff.2 hlt)
    cases hresult
    rw [Course.elapsed, hcourse.start]
    exact ⟨⟨_, rfl⟩, Nat.not_lt.1 hover'⟩

/-- A poll without a budget returns at once. -/
theorem run_of_no_budget (hzero : o.maxDuration.nanos = 0)
    (hcancelled : m.cancelled e.signalled = false) {moves : Nat} (hmoves : 0 < moves) :
    (poll o jobId m.now).run e .free moves m =
      ⟨[], .settled (.error (.pollingTimeout (.ofNanos 0) 0)), m⟩ := by
  refine Ends.runFrom_eq (.settled .start hmoves ?_)
  have hstep : step o m.now false (start o jobId m.now) =
      .settle (.error (.pollingTimeout (.ofNanos 0) 0)) := by
    simp [step, start, beginSlot, Course.elapsed, hzero]
  rw [Setting.turnAt, hcancelled]
  change e.turn m (step o m.now false (start o jobId m.now)) = _
  rw [hstep]
  rfl

/-- A poll whose requests are answered never waits in vain. -/
theorem resumes_of_answers (hanswers : AnswersWithin e.client jobId latency)
    (hledger : Ledger o jobId t₀ begun q m.now s) (hturn : e.turnAt (step o) m s = .ok turn) :
    turn.resume.isSome := by
  have hshape := step_shape o m.now (m.cancelled e.signalled) s
  rw [Setting.turnAt] at hturn
  generalize step o m.now (m.cancelled e.signalled) s = move at hshape hturn
  have hask : ∀ {c f}, c.jobId = jobId →
      e.turn m (askState c f) = .ok turn → turn.resume.isSome := by
    intro c f hjob hturn
    obtain ⟨told, htold, -⟩ := hanswers m.tally
    rw [← hjob] at htold
    obtain ⟨u, answer, hends, -⟩ := turn_ask_ends hturn htold
    rw [hends]
    rfl
  cases hshape with
  | settle | overdue | exhausted => cases hturn
  | begin | next | back => exact turn_wait_isSome hturn
  | @ask c =>
    obtain ⟨k, slots, hcourse⟩ := hledger.onCourse
    exact hask (c := { c with count := c.count + 1 }) hcourse.job hturn
  | again =>
    obtain ⟨k, slots, hcourse⟩ := hledger.onCourse
    exact hask hcourse.job hturn
  | tell | giveUp =>
    rw [turn_report] at hturn
    cases hturn
    rfl

/-- A poll makes no more requests than its slots allow. -/
theorem requests_le_of_reached (hpos : 0 < o.interval 0) (hlimited : ¬ o.Unlimited) :
    ∀ n effects m' s, Reached (step o) e .free m (start o jobId m.now) n effects m' s →
      (requestsOf effects).length ≤ (o.maxRetries.toNat + 1) * o.slots m.now :=
  fun _ _ _ _ h => (ledger_of_reached h).requests_le hpos hlimited

/-- So it is over in the end, whether or not its requests are answered. -/
theorem poll_finishes (hpos : 0 < o.interval 0) (hlimited : ¬ o.Unlimited) (jobId : String) :
    Finishes (step o) e .free m (start o jobId m.now) :=
  (step_busy o).finishes (requests_le_of_reached hpos hlimited)

/-- **A poll returns in time**, if its intervals are positive and its requests
are answered. -/
theorem settles_in_time (hpos : 0 < o.interval 0) (hlimited : ¬ o.Unlimited)
    (hanswers : AnswersWithin e.client jobId latency) :
    ∃ n result, ∀ moves, n ≤ moves →
      ((poll o jobId m.now).run e .free moves m).outcome = .settled result ∧
      (requestsOf ((poll o jobId m.now).run e .free moves m).effects).length ≤
        (o.maxRetries.toNat + 1) * o.slots m.now ∧
      ((poll o jobId m.now).run e .free moves m).moment.now <
        m.now + o.latest latency m.now o.maxRetries.toNat +
          atMost (o.lastAnswer latency m.now) latency := by
  obtain ⟨n, effects, m', s, result, h, hturn⟩ :=
    (step_busy o).exists_settled (requests_le_of_reached hpos hlimited) fun _ _ _ _ _ h hturn =>
      resumes_of_answers hanswers (ledger_of_reached h) hturn
  refine ⟨n + 1, result, fun moves hle => ?_⟩
  have hrun : (poll o jobId m.now).run e .free moves m = _ :=
    Ends.runFrom_eq (.settled h hle hturn)
  rw [hrun]
  exact ⟨rfl, requests_le_of_reached hpos hlimited _ _ _ _ h,
    (timely_of_reached hlimited hanswers h).lt hpos⟩

/-- **The budget of a poll**, in every setting and however it is cancelled.

A slot begins only within the budget, and after the intervals of the slots
that have begun before it. The poll times out only when the budget is used up,
and at once if there is none. And if the intervals are positive, every request
is answered within some time, and the retries are fewer than can be counted,
then the poll returns: after no more requests than `1 + maxRetries` for each
slot that the budget allows, and before the budget, one more interval, and the
requests of one more slot are over.

Every wait counts as long as it lasts. Within the reach of the clock this is
as long as it is; beyond it a wait counts for thirty years at most where it
has to have passed, and at least where it is waited for. -/
theorem poll_budget (e : Setting Event) (o : Options) (jobId : String) (m : Moment) :
    let whole := fun moves => (poll o jobId m.now).run e .free moves m
    let spent := fun k => ∑ j ∈ Finset.range k,
      atLeast (m.now + (o.maxDuration.nanos + o.maxInterval.nanos)) (o.interval j)
    (∀ n t, SlotBegins e o jobId m n t →
      t - m.now < o.maxDuration.nanos ∧ spent (slotsBefore e o jobId m n) ≤ t - m.now) ∧
    (∀ moves failure, (whole moves).outcome = .settled (.error failure) →
      failure.kind = .pollingTimeout →
        (∃ count, failure = .pollingTimeout (.ofNanos ((whole moves).moment.now - m.now)) count) ∧
          o.maxDuration.nanos ≤ (whole moves).moment.now - m.now) ∧
    (o.maxDuration.nanos = 0 → m.cancelled e.signalled = false → ∀ moves, 0 < moves →
      whole moves = ⟨[], .settled (.error (.pollingTimeout (.ofNanos 0) 0)), m⟩) ∧
    (∀ latency, 0 < min o.initialInterval.nanos o.maxInterval.nanos →
      o.maxRetries.toNat + 1 < UInt32.size → AnswersWithin e.client jobId latency →
      let most := atMost (m.now + (o.maxDuration.nanos + o.maxInterval.nanos +
        (o.maxRetries.toNat + 1) * latency + o.maxRetries.toNat * o.retryDelay.nanos))
      ∃ n result, ∀ moves, n ≤ moves →
        (whole moves).outcome = .settled result ∧
        (requestsOf (whole moves).effects).length ≤
          (o.maxRetries.toNat + 1) * {k | spent k < o.maxDuration.nanos}.ncard ∧
        (whole moves).moment.now < m.now + (o.maxDuration.nanos + most o.maxInterval.nanos +
          (o.maxRetries.toNat + 1) * most latency +
          o.maxRetries.toNat * most o.retryDelay.nanos)) := by
  intro whole spent
  refine ⟨?_, ?_, ?_, ?_⟩
  · rintro n t ⟨effects, m', s, h, rfl, hbegins⟩
    exact begins_in_budget (ledger_of_reached h) hbegins
  · intro moves failure houtcome hkind
    have hends : Ends (step o) e .free m (start o jobId m.now) moves (whole moves) :=
      runFrom_ends moves m _
    generalize whole moves = r at houtcome hends ⊢
    cases hends with
    | unfinished => cases houtcome
    | settled h _ hturn =>
      cases houtcome
      exact timeout_of_settle (ledger_of_reached h) (turn_eq_error hturn) hkind
    | lost => cases houtcome
    | stuck => cases houtcome
  · intro hzero hcancelled moves hmoves
    exact run_of_no_budget hzero hcancelled hmoves
  · intro latency hpos hlt hanswers most
    have hfirst : 0 < o.interval 0 := by rwa [Options.interval, Nat.pow_zero, Nat.mul_one]
    have hlimited : ¬ o.Unlimited := Nat.ne_of_lt hlt
    obtain ⟨n, result, hrun⟩ := settles_in_time (o := o) (m := m) hfirst hlimited hanswers
    refine ⟨n, result, fun moves hle => ?_⟩
    obtain ⟨houtcome, hrequests, hlt⟩ := hrun moves hle
    refine ⟨houtcome, hrequests, Nat.lt_of_lt_of_eq hlt ?_⟩
    rw [Nat.add_assoc]
    refine congrArg (m.now + ·) ?_
    change o.maxDuration.nanos + most o.maxInterval.nanos +
      o.maxRetries.toNat * (most latency + most o.retryDelay.nanos) + most latency = _
    rw [Nat.mul_add, Nat.succ_mul]
    omega

theorem thirdTime_answersWithin : AnswersWithin thirdTime.client "job-1" 5000000 := by
  rintro ⟨creations, statuses, generations⟩
  match statuses with
  | 0 => exact ⟨_, rfl, Nat.le_refl _⟩
  | 1 => exact ⟨_, rfl, Nat.zero_le _⟩
  | statuses + 2 => exact ⟨_, rfl, Nat.zero_le _⟩

/-- With the usual budget the poll of `thirdTime` begins its first slot at
once and returns within half an hour and 63.02 seconds, and without one it
times out. -/
theorem thirdTime_budget :
    let unpaid : Options := { Options.standard with maxDuration := .ofNanos 0 }
    (SlotBegins thirdTime .standard "job-1" (.start none) 0 0 ∧
      0 < Options.standard.maxDuration.nanos ∧
      ∑ j ∈ Finset.range (slotsBefore thirdTime .standard "job-1" (.start none) 0),
        atLeast 1860000000000 (Options.standard.interval j) ≤ 0) ∧
    (poll unpaid "job-1" 0).run thirdTime .free 1 (.start none) =
      ⟨[], .settled (.error (.pollingTimeout (.ofNanos 0) 0)), .start none⟩ ∧
    unpaid.maxDuration.nanos ≤ 0 ∧
    ∃ n result, ∀ moves, n ≤ moves →
      ((poll .standard "job-1" 0).run thirdTime .free moves (.start none)).outcome =
        .settled result ∧
      ((poll .standard "job-1" 0).run thirdTime .free moves (.start none)).moment.now <
        1863020000000 := by
  intro unpaid
  have hstandard := poll_budget thirdTime .standard "job-1" (.start none)
  have hunpaid := poll_budget thirdTime unpaid "job-1" (.start none)
  have hnone := hunpaid.2.2.1 rfl rfl 1 Nat.one_pos
  have hanswers := thirdTime_answersWithin
  have hbegins : SlotBegins thirdTime .standard "job-1" (.start none) 0 0 :=
    ⟨[], .start none, _, .start, rfl, rfl⟩
  refine ⟨⟨hbegins, hstandard.1 0 0 hbegins⟩, hnone, ?_, ?_⟩
  · exact (hunpaid.2.1 1 _ (congrArg Record.outcome hnone) rfl).2
  · obtain ⟨n, result, hrun⟩ := hstandard.2.2.2 5000000 (by decide) (by decide) hanswers
    exact ⟨n, result, fun moves hle => ⟨(hrun moves hle).1, (hrun moves hle).2.2⟩⟩

/-- Options with intervals beyond the reach of the clock. -/
def distantOptions : Options :=
  ⟨.ofMillis (UInt64.size - 1), .ofMillis (UInt64.size - 1), .ofMillis (UInt64.size - 1),
    .ofMillis 1000, 1⟩

/-- The sums of such intervals, of which the budget allows for one slot. -/
theorem distantOptions_slots :
    {k | ∑ j ∈ Finset.range k, distantOptions.interval j < distantOptions.maxDuration.nanos} =
      {0} := by
  have hfirst : distantOptions.interval 0 = distantOptions.maxDuration.nanos := by decide +kernel
  refine Set.ext fun k => ⟨fun hk => ?_, ?_⟩
  · refine Classical.byContradiction fun hne => ?_
    have hle : distantOptions.interval 0 ≤ ∑ j ∈ Finset.range k, distantOptions.interval j :=
      Finset.single_le_sum (fun _ _ => Nat.zero_le _)
        (Finset.mem_range.2 (Nat.pos_of_ne_zero hne))
    rw [hfirst] at hle
    exact Nat.not_lt.2 hle hk
  · rintro rfl
    show ∑ j ∈ Finset.range 0, distantOptions.interval j < distantOptions.maxDuration.nanos
    rw [Finset.sum_range_zero]
    decide +kernel

/-- **The budget is no bound beyond the reach of the clock and of the counts.**
A slot may begin before the intervals of the others are over: the second slot
begins after thirty years, and ends the poll before the first interval would
have passed; and three requests are made where the budget is for one slot, which
makes two at most. And a poll whose retries are as many as can be counted may
never return, and makes any number of requests. -/
theorem budget_beyond_reach :
    let distantly := (poll distantOptions "job-1" 0).run thirdTime .free 10 (.start none)
    let tirelessly := fun moves => (poll tireless "job-1" 0).run unreached .free moves (.start none)
    (distantly.outcome = .settled (.ok ⟨⟨"done", [], []⟩, 2, .ofNanos distantly.moment.now⟩) ∧
      distantly.moment.now < ∑ j ∈ Finset.range 1, distantOptions.interval j ∧
      (requestsOf distantly.effects).length = 3 ∧
      {k | ∑ j ∈ Finset.range k, distantOptions.interval j < distantOptions.maxDuration.nanos} =
        {0}) ∧
    0 < min tireless.initialInterval.nanos tireless.maxInterval.nanos ∧
      AnswersWithin unreached.client "job-1" 0 ∧
      (∀ moves result, (tirelessly moves).outcome ≠ .settled result) ∧
      ∀ most, ∃ moves, most < (requestsOf (tirelessly moves).effects).length := by
  intro distantly tirelessly
  have hcalm : unreached.Calm (.start none) := promptly_calm _
  have hunlimited : tireless.Unlimited := by decide
  have hbudget : (scenario unreached tireless "job-1" (.start none)).InBudget 0 := by
    decide +kernel
  refine ⟨⟨rfl, ?_, rfl, distantOptions_slots⟩, by decide, fun tally => ⟨_, rfl, Nat.le_refl _⟩,
    fun moves result => ?_, fun most => ?_⟩
  · rw [Finset.sum_range_one]
    decide +kernel
  · exact not_settled_of_unlimited hcalm hunlimited hbudget unreached_fails moves
  · obtain ⟨r, hasks⟩ := Scenario.asks_of_unlimited hunlimited hbudget unreached_fails most
    obtain ⟨n, hrequested⟩ := requested_of_asks hcalm hasks
    exact ⟨n, (List.getElem?_eq_some_iff.1 (hrequested n (Nat.le_refl n))).1⟩

end Poll

end Research

end Amanuensis
