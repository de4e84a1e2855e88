import Amanuensis.Proofs.Research.PollRun
/-!
# When a poll asks

The instants of all requests of a poll are known in advance from its script:
`Scenario.askedAt` is their closed form, which looks at nothing but the
answers so far. A request follows the retry delay after a failure on the
way, and otherwise the interval of its slot after the slot before has
settled; which interval that is depends on the number of settled slots
alone, so repeated requests never move the backoff (`requests_scheduled`).

The clock does not reach beyond `clockReach`. A wait that would end there
lasts thirty years instead of its span, and only then the instants are not
the plain sums (`retry_beyond_reach`).
-/


namespace Amanuensis

namespace Research

namespace Poll

open Amanuensis.Task Scenario

namespace Scenario

variable (c : Scenario)

/-- The number of slots that the answers before a request settle: all of
them but the failures on the way. -/
def settledBefore : Nat → Nat
  | 0 => 0
  | q + 1 =>
    match c.script q with
    | some (_, .error (.network _)) => settledBefore q
    | _ => settledBefore q + 1

/-- When a request is made, by the answers before it. -/
def askedAt : Nat → Option Instant
  | 0 => some (due c.startedAt (c.options.interval 0))
  | q + 1 =>
    match askedAt q, c.script q with
    | some r, some (d, .error (.network _)) => some (due (due r d) c.options.retryDelay.nanos)
    | some r, some (d, _) => some (due (due r d) (c.options.interval (c.settledBefore (q + 1))))
    | _, _ => none

variable {c} {k f q : Nat} {r : Instant}

/-- **The requests of the slots follow the closed form.** -/
theorem Asks.askedAt_eq (h : c.Asks k f q r) : c.askedAt q = some r ∧ c.settledBefore q = k := by
  induction h with
  | first => exact ⟨rfl, rfl⟩
  | @next k f q r d s _ hscript _ _ ih =>
    obtain ⟨hasked, hsettled⟩ := ih
    have hslots : c.settledBefore (q + 1) = k + 1 := by
      simp only [settledBefore, hscript, hsettled]
    exact ⟨by simp only [askedAt, hasked, hscript, hslots], hslots⟩
  | again _ hscript _ ih =>
    obtain ⟨hasked, hsettled⟩ := ih
    exact ⟨by simp only [askedAt, hasked, hscript], by simp only [settledBefore, hscript, hsettled]⟩

/-- A list of requests that the slots make is the closed form, as far as it
goes. -/
theorem map_askedAt_of_made {requests : List (Client.Request × Instant)} (h : Made c requests) :
    requests.map some =
      (List.range requests.length).map fun q =>
        (c.askedAt q).map fun r => (.status c.jobId, r) := by
  apply List.ext_getElem
  · simp
  · intro q hq hq'
    rw [List.length_map] at hq
    obtain ⟨k, f, r, hasks, heq⟩ := h q requests[q] (List.getElem?_eq_getElem hq)
    simp [heq, hasks.askedAt_eq.1]

end Scenario

/-- **The schedule of a poll.** However far its run gets, the list of its
requests is the closed form. Each belongs to a slot: the first of slot
`k + 1` is made the interval `min (initial * 2 ^ k) max` after slot `k` has
settled, every later one the retry delay after the failure of the one before
it in the same slot. And none is missing: every slot that begins in the budget
makes its first request, and every failure on the way that is to be repeated is
followed by another one. -/
theorem requests_scheduled (e : Setting Event) (o : Options) (jobId : String) (m : Moment)
    (hcalm : e.Calm m) :
    let c := scenario e o jobId m
    let requests := fun moves =>
      requestsOf ((poll o jobId m.now).run e .free moves m).effects
    (∀ moves, (requests moves).map some =
        (List.range (requests moves).length).map fun q =>
          (c.askedAt q).map fun r => (.status jobId, r)) ∧
      (∀ moves q p, (requests moves)[q]? = some p →
        ∃ k f r, p = (.status jobId, r) ∧ c.Asks k f q r ∧
          (f = 0 → ∃ t, c.Settled k q t ∧
            r = due t (min (o.initialInterval.nanos * 2 ^ k) o.maxInterval.nanos)) ∧
          (f ≠ 0 → ∃ t message, c.Answered k (f - 1) (q - 1) t (.error (.network message)) ∧
            r = due t o.retryDelay.nanos)) ∧
      (∀ k q t, c.Settled k q t → c.InBudget t →
        ∃ n, ∀ moves, n ≤ moves → (requests moves)[q]? =
          some (.status jobId,
            due t (min (o.initialInterval.nanos * 2 ^ k) o.maxInterval.nanos))) ∧
      ∀ k f q t message, c.Answered k f q t (.error (.network message)) → o.Repeats f →
        ∃ n, ∀ moves, n ≤ moves →
          (requests moves)[q + 1]? = some (.status jobId, due t o.retryDelay.nanos) := by
  intro c requests
  have hmade : ∀ moves, Made c (requests moves) := made_of_run hcalm
  refine ⟨fun moves => map_askedAt_of_made (hmade moves), fun moves q p hp => ?_,
    fun k q t hsettled hbudget => ?_, fun k f q t message hanswered hmay => ?_⟩
  · obtain ⟨k, f, r, hasks, rfl⟩ := hmade moves q p hp
    refine ⟨k, f, r, rfl, hasks, ?_⟩
    obtain ⟨rfl, t, hsettled, -, hr⟩ | ⟨f', q', t, message, rfl, rfl, -, hanswered, hr⟩ :=
      hasks.origin
    · exact ⟨fun _ => ⟨t, hsettled, hr⟩, fun hf => absurd rfl hf⟩
    · exact ⟨fun hf => absurd hf (Nat.succ_ne_zero f'), fun _ => ⟨t, message, hanswered, hr⟩⟩
  · exact requested_of_asks hcalm (hsettled.asks hbudget)
  · obtain ⟨r, d, hasks, hscript, rfl⟩ := hanswered
    exact requested_of_asks hcalm (.again hasks hscript hmay)

/-- The three requests of `thirdTime`: after five seconds, one second after
the failure of the first, and ten seconds after the first slot. The poll makes
the first because there is a budget, and repeats it because there are
retries. -/
theorem thirdTime_scheduled :
    let c := scenario thirdTime .standard "job-1" (.start none)
    let requests := fun moves =>
      requestsOf ((poll .standard "job-1" 0).run thirdTime .free moves (.start none)).effects
    thirdTime.Calm (.start none) ∧
      requests 10 = [(.status "job-1", 5000000000), (.status "job-1", 6005000000),
        (.status "job-1", 16005000000)] ∧
      (requests 10).map some = (List.range (requests 10).length).map
        (fun q => (c.askedAt q).map fun r => (.status "job-1", r)) ∧
      (∃ n, ∀ moves, n ≤ moves → (requests moves)[0]? = some (.status "job-1", 5000000000)) ∧
      ∃ n, ∀ moves, n ≤ moves → (requests moves)[1]? = some (.status "job-1", 6005000000) := by
  intro c requests
  obtain ⟨hclosed, -, hfirst, hagain⟩ :=
    requests_scheduled thirdTime .standard "job-1" (.start none) thirdTime_calm
  have hbudget : c.InBudget 0 := by decide +kernel
  have hinterval : due 0 (c.options.interval 0) = 5000000000 := by decide +kernel
  have hasks : c.Asks 0 0 0 5000000000 := hinterval ▸ .first hbudget
  have hreset : c.Answered 0 0 0 5005000000 (.error (.network "reset")) :=
    ⟨5000000000, 5000000, hasks, rfl, rfl⟩
  have hmay : c.options.Repeats 0 := .inr (by decide)
  exact ⟨thirdTime_calm, rfl, hclosed 10, hfirst 0 0 0 .none hbudget,
    hagain 0 0 0 5005000000 "reset" hreset hmay⟩

/-- Options with a retry delay beyond the reach of the clock. -/
def patientOptions : Options :=
  ⟨.ofMillis 1, .ofMillis 60000, .ofMillis (UInt64.size - 1), .ofMillis (UInt64.size - 1), 2⟩

/-- **The schedule is not the plain sum everywhere.** The first request fails
six milliseconds after the start and is repeated thirty years later, which
is not the retry delay. -/
theorem retry_beyond_reach :
    let c := scenario thirdTime patientOptions "job-1" (.start none)
    let requests :=
      requestsOf ((poll patientOptions "job-1" 0).run thirdTime .free 10 (.start none)).effects
    thirdTime.Calm (.start none) ∧
      c.Answered 0 0 0 6000000 (.error (.network "reset")) ∧
      requests[1]? = some (.status "job-1", 6000000 + thirtyYears) ∧
      c.Asks 0 1 1 (6000000 + thirtyYears) ∧
      6000000 + thirtyYears ≠ 6000000 + patientOptions.retryDelay.nanos := by
  intro c requests
  have hbudget : c.InBudget 0 := by decide +kernel
  have hfirst : due 0 (c.options.interval 0) = 1000000 := by decide +kernel
  have hasks : c.Asks 0 0 0 1000000 := hfirst ▸ .first hbudget
  have hreset : c.script 0 = some (5000000, .error (.network "reset")) := rfl
  have hdue : due 6000000 c.options.retryDelay.nanos = 6000000 + thirtyYears :=
    due_of_le (by decide +kernel)
  have hfailed : due 1000000 5000000 = 6000000 := by decide
  have hmay : c.options.Repeats 0 := .inr (by decide)
  have hagain := Scenario.Asks.again hasks hreset hmay
  rw [hfailed, hdue] at hagain
  exact ⟨thirdTime_calm, ⟨1000000, 5000000, hasks, hreset, rfl⟩, rfl, hagain, by decide +kernel⟩

end Poll

end Research

end Amanuensis
